/-!
# Spans — ranges of positions in a list

A span is a half-open range of positions. Disjoint spans in increasing order cut a list into what
lies inside them and what lies outside:

* `Span.outside` is what lies outside, in order (`mem_of_mem_outside`);
* `Span.slice` is what lies inside one span.
-/

namespace SqlTemplate

/-- The positions from `start` up to but not including `stop`. -/
structure Span where
  start : Nat
  stop : Nat
deriving DecidableEq, Repr

namespace Span

/-- The part of a list inside a span. -/
def slice {α : Type} (span : Span) (items : List α) : List α :=
  (items.drop span.start).take (span.stop - span.start)

/-- The part of `items` outside the spans, where `items` begins at position `position` and the
    spans, disjoint and in increasing order, begin at or after it. -/
def outside {α : Type} : (position : Nat) → List Span → (items : List α) → List α
  | _, [], items => items
  | position, span :: spans, items =>
    items.take (span.start - position) ++
      outside span.stop spans (items.drop (span.stop - position))

/-- Nothing lies outside spans of a list but items of the list. -/
theorem mem_of_mem_outside {α : Type} {position : Nat} {spans : List Span} {items : List α} {x : α}
    (h : x ∈ outside position spans items) : x ∈ items := by
  induction spans generalizing position items with
  | nil => exact h
  | cons span spans ih =>
      rcases List.mem_append.mp h with hbefore | hbehind
      · exact List.mem_of_mem_take hbefore
      · exact List.mem_of_mem_drop (ih hbehind)

end Span
end SqlTemplate
