import SqlTemplate.Binary64
import SqlTemplate.Decimal

/-!
# Shortest decimals — the fewest digits that read back

The reals that round to a finite number form an interval around it, reaching halfway to either
neighbour; its ends belong to it if the significand is even. The decimal written for the number
comes from the coarsest power-of-ten grid with a point in that interval. Of two points there the
nearer is taken, and the upper one if they are equally near.

* `Neighbourhood` is the interval, with its ends and the number counted in one power of two;
* `Neighbourhood.pointOn?` is the point of a grid that lies in it;
* `Neighbourhood.coarsest` searches the grids downwards and ends at one that holds the number
  itself, so it always answers;
* `text` writes the decimal after the sign, which a negative zero has too.
-/

namespace SqlTemplate.Binary64

/-- The reals that round to a number: from `low` to `high` around `middle`, counted in
    `2 ^ unit`, with the ends if `closed`. -/
structure Neighbourhood where
  low : Nat
  middle : Nat
  high : Nat
  unit : Int
  closed : Bool

/-- The reals that round to the magnitude of a finite number that is not zero. The neighbour below
    a power of two is half as far away as the one above, except where both are in the least
    unit. -/
def neighbourhood (x : Binary64) : Neighbourhood where
  low := 4 * x.significand - if x.fraction = 0 ∧ 1 < x.field then 1 else 2
  middle := 4 * x.significand
  high := 4 * x.significand + 2
  unit := x.unit - 2
  closed := x.significand % 2 == 0

namespace Neighbourhood

/-- The point of the grid of `10 ^ exponent` in the neighbourhood, as a count of grid steps: the
    multiple at or below the middle or the next one up, whichever lies inside and is nearer. -/
def pointOn? (n : Neighbourhood) (exponent : Int) : Option Nat :=
  let step := Nat.pow 10 exponent.toNat <<< (-n.unit).toNat
  let scale := Nat.pow 10 (-exponent).toNat <<< n.unit.toNat
  let middle := n.middle * scale
  let contains (point : Nat) : Bool :=
    if n.closed then n.low * scale ≤ point && point ≤ n.high * scale
    else n.low * scale < point && point < n.high * scale
  let count := middle / step
  let below := count * step
  let above := below + step
  match contains below, contains above with
  | true, true => some (if middle - below < above - middle then count else count + 1)
  | true, false => some count
  | false, true => some (count + 1)
  | false, false => none

/-- The number itself, on the grid of the last binary place or of the units. -/
def exact (n : Neighbourhood) : Decimal :=
  ⟨(n.middle * Nat.pow 5 (-n.unit).toNat) <<< n.unit.toNat, min n.unit 0⟩

/-- The first point found on the grid of `10 ^ exponent` and the `grids` finer ones after it. -/
def coarsestFrom (n : Neighbourhood) (exponent : Int) : (grids : Nat) → Decimal
  | 0 => n.exact
  | grids + 1 =>
    match n.pointOn? exponent with
    | some units => ⟨units, exponent⟩
    | none => n.coarsestFrom (exponent - 1) grids

/-- The point on the coarsest grid that has one. The search starts at a power of ten above the
    neighbourhood: `log 2 / log 10` is just below `0.30103`. -/
def coarsest (n : Neighbourhood) : Decimal :=
  let start := ((n.middle.log2 : Int) + 2 + n.unit) * 30103 / 100000 + 1
  n.coarsestFrom start (start - min n.unit 0).toNat

end Neighbourhood

/-- The decimal with the fewest digits that rounds to the magnitude of a finite number. -/
def shortest (x : Binary64) : Decimal :=
  if x.significand = 0 then ⟨0, 0⟩ else x.neighbourhood.coarsest

/-- A finite number in positional notation. -/
def text (x : Binary64) : Text :=
  (if x.negative then ['-'] else []) ++ x.shortest.text

end SqlTemplate.Binary64
