import SqlTemplate.Sql.Literal

/-!
# Rows — how a server reads items with commas between them

An item reader gives the item that a text begins with and the text behind it. `Row.read?` reads
items until a text ends, with a comma and a space between neighbours.

* `Row.items?` reads a row that is not empty, `items?_of_more` and `items?_of_end` say how it goes
  on and how it ends, and `items?_eq_some` that it does nothing else;
* `Row.assignment?` is the reader of one assignment, a backticked name and a literal.
-/

namespace SqlTemplate.Sql.Row

variable {α : Type}

/-- The items of a text that begins with one. -/
def items? (item? : Text → Option (α × Text)) (text : Text) : Option (List α) :=
  match item? text with
  | none => none
  | some (item, rest) =>
    if rest.isEmpty then some [item]
    else
      match rest.after? ", ".toList with
      | none => none
      | some more =>
        -- no reader gives back more than it was given
        if more.length < text.length then (items? item? more).map (item :: ·) else none
termination_by text.length

/-- An item with a comma behind it is read before the items of the rest. -/
theorem items?_of_more {item? : Text → Option (α × Text)} {text rest more : Text} {item : α}
    (hitem : item? text = some (item, rest)) (hrest : rest.after? ", ".toList = some more)
    (hlt : more.length < text.length) :
    items? item? text = (items? item? more).map (item :: ·) := by
  have hne : rest.isEmpty = false := by
    rw [Text.after?_eq_some_iff.mp hrest]
    rfl
  rw [items?, hitem]
  simp only [hne, Bool.false_eq_true, if_false, hrest, if_pos hlt]

/-- An item that ends its text is the last one. -/
theorem items?_of_end {item? : Text → Option (α × Text)} {text : Text} {item : α}
    (hitem : item? text = some (item, [])) : items? item? text = some [item] := by
  rw [items?, hitem]
  rfl

/-- A row that is read has a first item, and ends behind it or goes on with a row of the others. -/
theorem items?_eq_some {item? : Text → Option (α × Text)} {text : Text} {items : List α}
    (h : items? item? text = some items) :
    ∃ item rest others, item? text = some (item, rest) ∧ items = item :: others ∧
      (rest = [] ∧ others = [] ∨ ∃ more, items? item? more = some others) := by
  rw [items?] at h
  split at h
  · exact nomatch h
  · next item rest hitem =>
    split at h
    · next hrest =>
      exact ⟨item, rest, [], hitem, (Option.some.inj h).symm,
        Or.inl ⟨List.isEmpty_iff.mp hrest, rfl⟩⟩
    · split at h
      · exact nomatch h
      · next more _ =>
        split at h
        · obtain ⟨others, hothers, hitems⟩ := Option.map_eq_some_iff.mp h
          exact ⟨item, rest, others, hitem, hitems.symm, Or.inr ⟨more, hothers⟩⟩
        · exact nomatch h

/-- A row of one item ends behind it. -/
theorem items?_eq_singleton {item? : Text → Option (α × Text)} {text : Text} {item : α}
    (h : items? item? text = some [item]) : item? text = some (item, []) := by
  obtain ⟨first, rest, others, hfirst, hitems, hend⟩ := items?_eq_some h
  obtain ⟨rfl, rfl⟩ := List.cons.inj hitems
  rcases hend with ⟨rfl, -⟩ | ⟨more, hmore⟩
  · exact hfirst
  · -- a row that goes on has another item
    obtain ⟨next, _, _, _, hnext, _⟩ := items?_eq_some hmore
    exact nomatch hnext

/-- The items of a row, none in the empty one. -/
def read? (item? : Text → Option (α × Text)) (text : Text) : Option (List α) :=
  if text.isEmpty then some [] else items? item? text

/-- An assignment: a name between backticks, an equals sign and a literal. -/
def assignment? (text : Text) : Option ((Text × Literal) × Text) := do
  let quoted ← text.after? ['\x60']
  let (name, behind) ← Literal.readDoubled '\x60' quoted
  let assigned ← behind.after? " = ".toList
  let (literal, rest) ← Literal.read? assigned
  return ((name, literal), rest)

end SqlTemplate.Sql.Row
