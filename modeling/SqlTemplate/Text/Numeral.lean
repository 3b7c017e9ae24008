import SqlTemplate.Text

/-!
# Numerals — whole numbers in decimal, and hexadecimal digits

* `Numeral.ofNat` writes a natural number without leading zeros;
* `Numeral.ofInt` puts a minus sign before the numeral of a negative number;
* `Numeral.toNat?` and `Numeral.toInt?` read a number back (`toNat?_ofNat`, `toInt?_ofInt`);
* `Numeral.isPositional` recognises a number in positional notation;
* `Numeral.hexDigit?` reads one hexadecimal digit.
-/

namespace SqlTemplate.Numeral

/-- The decimal digits of a natural number, the highest first. -/
def ofNat (n : Nat) : Text :=
  Nat.toDigits 10 n

/-- The decimal digits of a whole number, after a minus sign where it is negative. -/
def ofInt : Int → Text
  | .ofNat n => ofNat n
  | .negSucc n => '-' :: ofNat (n + 1)

/-- The natural number that a text of digits denotes. -/
def toNat? (digits : Text) : Option Nat :=
  if digits ≠ [] ∧ digits.all Char.isDigit then some (Nat.ofDigitChars 10 digits 0) else none

/-- The whole number that a text denotes: digits, after a minus sign where it is negative. -/
def toInt? : Text → Option Int
  | '-' :: digits => (toNat? digits).map fun n => -(n : Int)
  | digits => (toNat? digits).map Int.ofNat

/-- The characters that numbers are made of. -/
def isNumeric (c : Char) : Bool :=
  c.isDigit || c == '.' || c == '-'

/-- Whether a text is a number in positional notation: digits after a minus sign or without one,
    and perhaps a point and further digits behind them. -/
def isPositional (text : Text) : Bool :=
  let parts := Text.parts '.' (if text.head? = some '-' then text.tail else text)
  parts.length ≤ 2 && parts.all fun part => !part.isEmpty && part.all Char.isDigit

/-- The value of a hexadecimal digit. -/
def hexDigit? (c : Char) : Option Nat :=
  if c.isDigit then some (c.toNat - '0'.toNat)
  else if 'a' ≤ c ∧ c ≤ 'f' then some (c.toNat - 'a'.toNat + 10)
  else if 'A' ≤ c ∧ c ≤ 'F' then some (c.toNat - 'A'.toNat + 10)
  else none

/-- A numeral holds digits only. -/
theorem isDigit_of_mem_ofNat {n : Nat} {c : Char} (h : c ∈ ofNat n) : c.isDigit = true :=
  Nat.isDigit_of_mem_toDigits (by decide) (by decide) h

/-- A numeral has at least one digit. -/
theorem ofNat_ne_nil (n : Nat) : ofNat n ≠ [] :=
  Nat.toDigits_ne_nil

/-- Reading a numeral gives the number back. -/
theorem toNat?_ofNat (n : Nat) : toNat? (ofNat n) = some n := by
  have hall : (ofNat n).all Char.isDigit = true :=
    List.all_eq_true.mpr fun _ h => isDigit_of_mem_ofNat h
  rw [toNat?, if_pos ⟨ofNat_ne_nil n, hall⟩]
  exact congrArg some (Nat.ofDigitChars_toDigits (by decide) (by decide))

/-- Reading the numeral of a whole number gives the number back. -/
theorem toInt?_ofInt (n : Int) : toInt? (ofInt n) = some n := by
  cases n with
  | ofNat n =>
      cases hdigits : ofNat n with
      | nil => exact absurd hdigits (ofNat_ne_nil n)
      | cons c digits =>
          have hdigit : c.isDigit = true :=
            isDigit_of_mem_ofNat (by rw [hdigits]; exact List.mem_cons_self)
          have hminus : c ≠ '-' := fun h => absurd (h ▸ hdigit) (by decide)
          rw [ofInt, hdigits, toInt?.eq_2 _ fun rest h => hminus (List.cons.inj h).1, ← hdigits,
            toNat?_ofNat]
          rfl
  | negSucc n =>
      rw [ofInt, toInt?.eq_1, toNat?_ofNat]
      rfl

end SqlTemplate.Numeral
