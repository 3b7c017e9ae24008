import SqlTemplate.Binary64.Rounding
import SqlTemplate.Json

/-!
# JSON numbers — from digits to 64 bits

A number is a sign, whole digits without a leading zero, and optionally a fraction and an
exponent, each with at least one digit.

* `NumberParts` is a number taken apart, and `NumberParts.ofText?` takes it apart;
* a number without fraction and exponent that fits 64 bits is an integer. A minus zero does not
  fit, because an integer has no signed zero;
* every other number is the floating-point product or quotient of its leading digits, as many as
  fit 64 bits, with a power of ten, and is refused where that is not finite (`NumberParts.real?`).
-/

namespace SqlTemplate.Json

/-- The parts of a number. -/
structure NumberParts where
  negative : Bool
  whole : Text
  fraction : Option Text
  exponent : Option Int

namespace NumberParts

/-! ## Taking a number apart -/

/-- The number that digits denote. -/
def digitsValue (digits : Text) : Nat :=
  Nat.ofDigitChars 10 digits 0

/-- Digits of which there must be at least one, and the rest of the text. -/
def digits? (text : Text) : Option (Text × Text) :=
  match text.span Char.isDigit with
  | ([], _) => none
  | (digits, rest) => some (digits, rest)

/-- The sign of a number, or none, and the rest of the text. -/
def sign (text : Text) : Bool × Text :=
  match text with
  | '-' :: rest => (true, rest)
  | _ => (false, text)

/-- The whole digits, which begin with a zero only if that is all of them. -/
def whole? (text : Text) : Option (Text × Text) :=
  match digits? text with
  | some ('0' :: _ :: _, _) => none
  | found => found

/-- The fraction, if the text goes on with a point. -/
def fraction? (text : Text) : Option (Option Text × Text) :=
  match text with
  | '.' :: rest => (digits? rest).map fun (digits, rest) => (some digits, rest)
  | _ => some (none, text)

/-- The exponent that makes up the rest of a number; its sign may be a plus. -/
def exponent? (text : Text) : Option (Option Int) :=
  match text with
  | [] => some none
  | mark :: rest =>
    if mark = 'e' ∨ mark = 'E' then
      let (negative, unsigned) :=
        match rest with
        | '+' :: rest => (false, rest)
        | rest => sign rest
      match digits? unsigned with
      | some (digits, []) =>
        some (some (if negative then -(digitsValue digits : Int) else digitsValue digits))
      | _ => none
    else none

/-- The parts of a number's text, if it is one. -/
def ofText? (text : Text) : Option NumberParts := do
  let (negative, rest) := sign text
  let (whole, rest) ← whole? rest
  let (fraction, rest) ← fraction? rest
  let exponent ← exponent? rest
  return ⟨negative, whole, fraction, exponent⟩

/-! ## Its value -/

/-- A number continued by as many of the digits as keep it within 64 bits, and the digits left. -/
def leading : (n : Nat) → (digits : Text) → Nat × Text
  | n, [] => (n, [])
  | n, digit :: rest =>
    let longer := 10 * n + (digit.toNat - '0'.toNat)
    if longer < 1 <<< 64 then leading longer rest else (n, digit :: rest)

/-- The leading digits of a number, whole ones first and then those of the fraction, and the power
    of ten that they count. -/
def significand (n : NumberParts) : Nat × Int :=
  let fraction := n.fraction.getD []
  let (whole, dropped) := leading 0 n.whole
  let (significand, ignored) := leading whole fraction
  let places := fraction.length - ignored.length
  (significand, dropped.length - places + n.exponent.getD 0)

/-- The floating-point number nearest to a power of ten. -/
def powerOfTen (exponent : Nat) : Binary64 := .ofNat (Nat.pow 10 exponent)

/-- A magnitude times a power of ten. The powers from 308 up are no factors of their own: above, the
    product is out of range unless it is zero; below, a division by the greatest one comes first,
    and a second leaves zero. -/
def scaled (x : Binary64) (exponent : Int) : Binary64 :=
  let e := exponent.natAbs
  if 0 ≤ exponent then
    if x.isZero then x else if e ≤ 308 then x.product (powerOfTen e) else .infinity
  else if e ≤ 308 then x.quotient (powerOfTen e)
  else (x.quotient (powerOfTen 308)).quotient (powerOfTen (min 308 (e - 308)))

/-- A number in floating point, if it is finite there. -/
def real? (n : NumberParts) : Option Number :=
  let (significand, exponent) := n.significand
  let x := (scaled (.ofNat significand) exponent).signed n.negative
  if finite : x.isFinite = true then some (.real x finite) else none

/-- A number as an integer of 64 bits, if it is one. -/
def integer? (n : NumberParts) : Option Number :=
  let magnitude := digitsValue n.whole
  if n.fraction.isSome ∨ n.exponent.isSome then none
  else if n.negative then
    let value := Int64.ofInt (-magnitude)
    if below : value < 0 ∧ magnitude ≤ 1 <<< 63 then some (.negative value below.1) else none
  else if magnitude < 1 <<< 64 then some (.natural (.ofNat magnitude)) else none

end NumberParts

/-- The number that a text denotes, if it is one within range. -/
def Number.ofText? (text : Text) : Option Number := do
  let parts ← NumberParts.ofText? text
  parts.integer? <|> parts.real?

end SqlTemplate.Json
