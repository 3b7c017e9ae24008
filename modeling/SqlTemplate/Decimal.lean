import SqlTemplate.Text.Numeral

/-!
# Decimals — numbers on a power-of-ten grid

A decimal is a natural number of units of a power of ten. `Decimal.text` writes it positionally:
whole units are followed by zeros, parts of a unit by a point and as many places as the grid has,
and no exponent is ever written.
-/

namespace SqlTemplate

/-- The number `units · 10 ^ exponent`. -/
structure Decimal where
  units : Nat
  exponent : Int
deriving DecidableEq, Repr

namespace Decimal

/-- The digits with a point before the last `places` of them, after a zero where none is left. -/
def pointed (places : Nat) (digits : Text) : Text :=
  let padded := List.replicate (places + 1 - digits.length) '0' ++ digits
  let whole := padded.length - places
  padded.take whole ++ '.' :: padded.drop whole

/-- A decimal in positional notation. -/
def text (d : Decimal) : Text :=
  let digits := Numeral.ofNat d.units
  if 0 ≤ d.exponent then digits ++ List.replicate d.exponent.toNat '0'
  else pointed (-d.exponent).toNat digits

end Decimal
end SqlTemplate
