import SqlTemplate.Fields.Assigned
import SqlTemplate.Value.Mirror

/-!
# Equality — when two parameters are one value

Two values are equal if they look the same but for two things: the zeros of either sign are one
number, and the fields of a map have no order. A NaN is equal to nothing, so a value with a NaN in
it is not even equal to itself.

* `Value.Equal` is that relation, one rule for each kind of value and a second one for floats;
* `Value.Distinct` says that no map in a value repeats a name, and `distinct_ofPairs` that a map
  built from pairs does not;
* `Value.Plain` says that a value has neither of the two things in it, at any depth;
* `Value.entries_induction` — what holds of a value if it holds of its entries holds of all.
-/

namespace SqlTemplate.Value

/-- Two values are equal. The fields of one map are, in some order of the other's, the same names
    with equal values. -/
inductive Equal : Value → Value → Prop where
  | null : Equal .null .null
  | bool (b : Bool) : Equal (.bool b) (.bool b)
  | int (n : Int64) : Equal (.int n) (.int n)
  | float (x : Binary64) (h : x.isNaN = false) : Equal (.float x) (.float x)
  | zeros {x y : Binary64} (hx : x.isZero = true) (hy : y.isZero = true) :
      Equal (.float x) (.float y)
  | string (s : Text) : Equal (.string s) (.string s)
  | list {items others : List Value} (h : List.Forall₂ Equal items others) :
      Equal (.list items) (.list others)
  | map {fields permuted others : List (Text × Value)} (hpermuted : permuted.Perm others)
      (hkeys : Fields.keys fields = Fields.keys permuted)
      (h : List.Forall₂ Equal (fields.map Prod.snd) (permuted.map Prod.snd)) :
      Equal (.map fields) (.map others)
  | skip : Equal .skip .skip

/-- Two fields have one name and equal values. -/
def EqualField (field other : Text × Value) : Prop :=
  field.1 = other.1 ∧ Equal field.2 other.2

/-- No map in the value repeats a name. -/
def Distinct (value : Value) : Prop :=
  ∀ fields, Within (.map fields) value → (Fields.keys fields).Nodup

/-- No float in the value is a NaN. -/
def Comparable (value : Value) : Prop :=
  ∀ x, Within (.float x) value → x.isNaN = false

/-- There is no zero among the floats in the value and no map in it, so that nothing else is equal
    to it. -/
structure Plain (value : Value) : Prop where
  float : ∀ x, Within (.float x) value → x.isZero = false
  map : ∀ fields, ¬Within (.map fields) value

/-! ## From a value to its entries -/

theorem Distinct.entry {value entry : Value} (h : value.Distinct)
    (hentry : entry ∈ value.entries) : entry.Distinct :=
  fun fields hfields => h fields (.entry hfields hentry)

theorem Comparable.entry {value entry : Value} (h : value.Comparable)
    (hentry : entry ∈ value.entries) : entry.Comparable :=
  fun x hx => h x (.entry hx hentry)

theorem Plain.entry {value entry : Value} (h : value.Plain) (hentry : entry ∈ value.entries) :
    entry.Plain where
  float x hx := h.float x (.entry hx hentry)
  map fields hfields := h.map fields (.entry hfields hentry)

/-- What is inside a value is the value itself or inside an entry. -/
theorem within_iff {part value : Value} :
    Within part value ↔ part = value ∨ ∃ entry ∈ value.entries, Within part entry := by
  constructor
  · intro h
    cases h with
    | self => exact .inl rfl
    | entry h hentry => exact .inr ⟨_, hentry, h⟩
  · rintro (rfl | ⟨entry, hentry, h⟩)
    · exact .self part
    · exact .entry h hentry

/-- A value repeats no name if no entry does, nor the value itself as a map. -/
theorem distinct_of_entries {value : Value}
    (hkeys : ∀ fields, value = .map fields → (Fields.keys fields).Nodup)
    (hentries : ∀ entry ∈ value.entries, entry.Distinct) : value.Distinct := by
  intro fields hfields
  rcases within_iff.mp hfields with hself | ⟨entry, hentry, hwithin⟩
  · exact hkeys fields hself.symm
  · exact hentries entry hentry fields hwithin

/-- A map built from pairs repeats no name. -/
theorem distinct_ofPairs {pairs : List (Text × Value)} (h : ∀ pair ∈ pairs, pair.2.Distinct) :
    (ofPairs pairs).Distinct := by
  refine distinct_of_entries ?_ ?_
  · rintro _ ⟨⟩
    exact Fields.nodup_keys_ofPairs pairs
  · intro entry hentry
    obtain ⟨field, hfield, rfl⟩ := List.mem_map.mp hentry
    exact h field ((Fields.assigned_ofPairs pairs).mem hfield)

theorem sizeOf_lt_of_mem_entries {value entry : Value} (h : entry ∈ value.entries) :
    sizeOf entry < sizeOf value := by
  cases value with
  | list items =>
      have hlt : sizeOf entry < sizeOf items := List.sizeOf_lt_of_mem h
      simp only [list.sizeOf_spec]
      omega
  | map fields =>
      obtain ⟨⟨name, entry⟩, hfield, rfl⟩ := List.mem_map.mp h
      have hlt : sizeOf (name, entry) < sizeOf fields := List.sizeOf_lt_of_mem hfield
      simp only [map.sizeOf_spec, Prod.mk.sizeOf_spec] at hlt ⊢
      omega
  | _ => exact nomatch h

/-- **ENTRIES**: what holds of every value whose entries have it holds of every value. -/
theorem entries_induction {P : Value → Prop}
    (h : ∀ value : Value, (∀ entry ∈ value.entries, P entry) → P value) (value : Value) : P value :=
  h value fun entry hentry =>
    have : sizeOf entry < sizeOf value := sizeOf_lt_of_mem_entries hentry
    entries_induction h entry
termination_by sizeOf value

end SqlTemplate.Value
