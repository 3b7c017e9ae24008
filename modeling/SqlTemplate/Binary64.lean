/-!
# Binary64 — floating-point numbers as 64-bit words

A number in the 64-bit binary format is its word: a sign bit, an exponent field of eleven bits and
a fraction of fifty-two. A field below 2047 makes the number finite, with the magnitude
`significand · 2 ^ unit`; the field 2047 makes it an infinity or, with a fraction, a NaN.

* `significand` and `unit` decode the magnitude;
* `same` compares numbers as numbers: a NaN equals nothing, and the two zeros are equal;
* `ofBinary32` widens a number of the 32-bit format, which loses nothing.
-/

namespace SqlTemplate

/-- A number in the 64-bit binary format. -/
structure Binary64 where
  bits : UInt64
deriving DecidableEq, Repr

namespace Binary64

/-! ## Fields -/

/-- The word as a natural number. -/
def word (x : Binary64) : Nat := x.bits.toNat

/-- The sign bit. -/
def negative (x : Binary64) : Bool := x.word >>> 63 == 1

/-- The exponent field. -/
def field (x : Binary64) : Nat := (x.word >>> 52) % 0x800

/-- The fraction below the leading bit. -/
def fraction (x : Binary64) : Nat := x.word % 0x10000000000000

/-- Neither an infinity nor a NaN. -/
def isFinite (x : Binary64) : Bool := x.field != 2047

/-- Not a number. -/
def isNaN (x : Binary64) : Bool := x.field == 2047 && x.fraction != 0

/-- A zero of either sign. -/
def isZero (x : Binary64) : Bool := x.field == 0 && x.fraction == 0

/-- The significand of a finite number, an integer below `2 ^ 53`. -/
def significand (x : Binary64) : Nat :=
  if x.field = 0 then x.fraction else 0x10000000000000 + x.fraction

/-- The exponent of two that the significand of a finite number counts. -/
def unit (x : Binary64) : Int := (max x.field 1 : Nat) - 1075

/-- A positive infinity. -/
def infinity : Binary64 := ⟨0x7ff0000000000000⟩

/-- The number with the other sign. -/
def negated (x : Binary64) : Binary64 := ⟨x.bits ^^^ 0x8000000000000000⟩

/-- The number with a given sign before the magnitude of `x`, which has none. -/
def signed (negative : Bool) (x : Binary64) : Binary64 := if negative then x.negated else x

/-! ## Comparison -/

/-- Numbers are the same if their values are: a NaN has no value, and the two zeros have one. -/
def same (x y : Binary64) : Bool :=
  !x.isNaN && !y.isNaN && (x == y || x.isZero && y.isZero)

/-! ## From the 32-bit format -/

/-- The finite number of magnitude `significand · 2 ^ unit`, where the significand is below
    `2 ^ 52` only in the least unit, `-1074`; an infinity where the magnitude is out of range. -/
def ofMagnitude (significand : Nat) (unit : Int) : Binary64 :=
  let word := (unit + 1074).toNat <<< 52 + significand
  if word < 0x7ff0000000000000 then ⟨.ofNat word⟩ else infinity

/-- The number that a word of the 32-bit format denotes. -/
def ofBinary32 (bits : UInt32) : Binary64 :=
  let word := bits.toNat
  let field : Nat := (word >>> 23) % 0x100
  let fraction := word % 0x800000
  signed (word >>> 31 == 1) <|
    if field = 255 then
      ⟨.ofNat (0x7ff0000000000000 + fraction <<< 29)⟩
    else if field = 0 then
      -- a fraction of `2 ^ -149` has its leading bit moved up to the place of a normal number
      if fraction = 0 then ⟨0⟩
      else
        let shift := 52 - fraction.log2
        ofMagnitude (fraction <<< shift) (-149 - (shift : Int))
    else
      ofMagnitude ((0x800000 + fraction) <<< 29) ((field : Int) - 179)

end Binary64
end SqlTemplate
