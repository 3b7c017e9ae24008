import SqlTemplate.Binary64

/-!
# Rounding — the floating-point number nearest to a quotient

* `roundedQuotient` is the integer nearest to a quotient, the even one of two;
* `ofRatio` is the number nearest to a quotient of naturals, and an infinity from halfway above
  the greatest finite number on;
* `product` and `quotient` are the arithmetic of magnitudes, each result rounded once.
-/

namespace SqlTemplate.Binary64

/-- The integer nearest to `num / den`; of two equally near the even one. -/
def roundedQuotient (num den : Nat) : Nat :=
  let whole := num / den
  match compare (2 * (num % den)) den with
  | .lt => whole
  | .eq => whole + whole % 2
  | .gt => whole + 1

/-- The greatest `e` with `2 ^ e ≤ num / den`, for positive naturals. -/
def floorLog2 (num den : Nat) : Int :=
  let e : Int := num.log2 - den.log2
  if den <<< e.toNat ≤ num <<< (-e).toNat then e else e - 1

/-- The number nearest to `num / den`; of two equally near the one with an even significand. -/
def ofRatio (num den : Nat) : Binary64 :=
  if num = 0 then ⟨0⟩
  else
    let unit := max (floorLog2 num den - 52) (-1074)
    ofMagnitude (roundedQuotient (num <<< (-unit).toNat) (den <<< unit.toNat)) unit

/-- The number nearest to a natural number. -/
def ofNat (n : Nat) : Binary64 := ofRatio n 1

/-- The rounded product of two finite magnitudes. -/
def product (x y : Binary64) : Binary64 :=
  let unit := x.unit + y.unit
  ofRatio ((x.significand * y.significand) <<< unit.toNat) (1 <<< (-unit).toNat)

/-- The rounded quotient of a finite magnitude by one that is not zero. -/
def quotient (x y : Binary64) : Binary64 :=
  let unit := x.unit - y.unit
  ofRatio (x.significand <<< unit.toNat) (y.significand <<< (-unit).toNat)

end SqlTemplate.Binary64
