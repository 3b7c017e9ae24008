/-!
# Ranges — classes of characters given by code points

A class of characters that a standard lists is written down as ranges of code points, each with its
first and its last, in increasing order.

* `Ranges.contains` says whether a character belongs to a class;
* `contains_of_mem` reads membership off one range of the list;
* `contains_eq_false` says that a character between all ranges does not belong.
-/

namespace SqlTemplate

/-- Ranges of code points, each with its first and its last. -/
abbrev Ranges := List (Nat × Nat)

namespace Ranges

/-- Whether one of the ranges holds the code point of a character. -/
def contains (ranges : Ranges) (c : Char) : Bool :=
  ranges.any fun (first, last) => first ≤ c.toNat && c.toNat ≤ last

/-- A character in one of the ranges belongs to the class. -/
theorem contains_of_mem {ranges : Ranges} {first last : Nat} {c : Char}
    (h : (first, last) ∈ ranges) (hfirst : first ≤ c.toNat) (hlast : c.toNat ≤ last) :
    ranges.contains c = true :=
  List.any_eq_true.mpr ⟨_, h, by simp [hfirst, hlast]⟩

/-- A character after or before each of the ranges does not belong to the class. -/
theorem contains_eq_false {ranges : Ranges} {low high : Nat} {c : Char}
    (h : ∀ range ∈ ranges, range.2 < low ∨ high < range.1) (hlow : low ≤ c.toNat)
    (hhigh : c.toNat ≤ high) : ranges.contains c = false := by
  refine List.any_eq_false.mpr fun range hrange hboth => ?_
  simp only [Bool.and_eq_true, decide_eq_true_eq] at hboth
  rcases h range hrange with hless | hmore
  · exact absurd hboth.2 (by omega)
  · exact absurd hboth.1 (by omega)

end Ranges
end SqlTemplate
