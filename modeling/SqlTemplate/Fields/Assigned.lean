import Mathlib.Data.List.Sort
import SqlTemplate.Fields

/-!
# Assignments — what fields built from pairs are

Pairs may mention a name any number of times, in any places. The fields built from them mention it
once: where it was mentioned first, with the entry that it was mentioned with last.

* `Fields.Assigned` says that of fields and pairs, without any insertion;
* `Fields.mem_insert` — an insertion changes the entry of one name;
* `Fields.Assigned.insert` — the step: one pair more, and one insertion more;
* **`Fields.assigned_ofPairs`** — the run: fields built from pairs are what the pairs assign, by
  induction on the pairs;
* **`Fields.Assigned.unique`** — and no other fields are.
-/

namespace SqlTemplate.Fields

variable {α : Type}

/-- A name is mentioned for the first time before another one is. -/
def Before (names : List Text) (name other : Text) : Prop :=
  names.idxOf name < names.idxOf other

/-- Fields hold the names of some pairs, each once and in the order of their first mentions, and
    each with the entry of its last mention. -/
structure Assigned (pairs : List (Text × α)) (fields : Fields α) : Prop where
  nodup : (keys fields).Nodup
  mem_keys : ∀ name, name ∈ keys fields ↔ name ∈ keys pairs
  order : (keys fields).Pairwise (Before (keys pairs))
  last : ∀ name entry, (name, entry) ∈ fields →
    ∃ before after, pairs = before ++ (name, entry) :: after ∧ name ∉ keys after

/-- An entry of the fields is an entry of the pairs. -/
theorem Assigned.mem {pairs : List (Text × α)} {fields : Fields α} (h : Assigned pairs fields)
    {field : Text × α} (hfield : field ∈ fields) : field ∈ pairs := by
  obtain ⟨before, after, rfl, -⟩ := h.last field.1 field.2 hfield
  exact List.mem_append_right before List.mem_cons_self

/-! ## From pairs to fields -/

theorem keys_append (fields others : Fields α) :
    keys (fields ++ others) = keys fields ++ keys others :=
  List.map_append

/-- After an insertion its name has its entry, and every other name the one that it had. -/
theorem mem_insert {key name : Text} {entry other : α} {fields : Fields α}
    (hnodup : (keys fields).Nodup) (h : (name, other) ∈ insert key entry fields) :
    (name = key ∧ other = entry) ∨ (name ≠ key ∧ (name, other) ∈ fields) := by
  induction fields with
  | nil =>
      rw [insert, List.mem_singleton] at h
      exact .inl (Prod.mk.inj h)
  | cons field rest ih =>
      obtain ⟨first, old⟩ := field
      obtain ⟨hfirst, hrest⟩ := List.nodup_cons.mp hnodup
      rw [insert] at h
      split at h
      next heq =>
        rcases List.mem_cons.mp h with hhead | htail
        · obtain ⟨rfl, rfl⟩ := Prod.mk.inj hhead
          exact .inl ⟨heq, rfl⟩
        · refine .inr ⟨?_, .tail _ htail⟩
          rintro rfl
          exact hfirst (List.mem_map.mpr ⟨_, htail, heq.symm⟩)
      next hne =>
        rcases List.mem_cons.mp h with hhead | htail
        · obtain ⟨rfl, rfl⟩ := Prod.mk.inj hhead
          exact .inr ⟨hne, List.mem_cons_self⟩
        · exact (ih hrest htail).imp_right fun h => ⟨h.1, .tail _ h.2⟩

/-- **ONE PAIR MORE**: an insertion gives what the pairs assign with one more behind them. -/
theorem Assigned.insert {pairs : List (Text × α)} {fields : Fields α} (h : Assigned pairs fields)
    (key : Text) (entry : α) :
    Assigned (pairs ++ [(key, entry)]) (Fields.insert key entry fields) where
  nodup := nodup_keys_insert key entry h.nodup
  mem_keys name := by
    rw [keys_insert, keys_append, List.mem_append, ← h.mem_keys]
    show _ ↔ name ∈ keys fields ∨ name ∈ [key]
    split
    next hmem =>
      refine ⟨Or.inl, ?_⟩
      rintro (hname | hname)
      · exact hname
      · rwa [List.mem_singleton.mp hname]
    next => rw [List.mem_append]
  order := by
    -- the names that were there are still mentioned first where they were
    have hold : (keys fields).Pairwise (Before (keys (pairs ++ [(key, entry)]))) := by
      refine h.order.imp_of_mem ?_
      intro name other hname hother hlt
      rwa [Before, keys_append, List.idxOf_append_of_mem ((h.mem_keys name).mp hname),
        List.idxOf_append_of_mem ((h.mem_keys other).mp hother)]
    rw [keys_insert]
    split
    next => exact hold
    next hnew =>
      refine List.pairwise_append.mpr ⟨hold, List.pairwise_singleton _ key, ?_⟩
      intro name hname other hother
      have hname : name ∈ keys pairs := (h.mem_keys name).mp hname
      have hkey : key ∉ keys pairs := mt (h.mem_keys key).mpr hnew
      rw [Before, List.mem_singleton.mp hother, keys_append, List.idxOf_append_of_mem hname,
        List.idxOf_append_of_notMem hkey]
      exact Nat.lt_add_right _ (List.idxOf_lt_length_of_mem hname)
  last name other hmem := by
    rcases mem_insert h.nodup hmem with ⟨rfl, rfl⟩ | ⟨hne, hmem⟩
    · exact ⟨pairs, [], rfl, nofun⟩
    · obtain ⟨before, after, rfl, hafter⟩ := h.last name other hmem
      refine ⟨before, after ++ [(key, entry)], List.append_assoc _ _ _, ?_⟩
      rw [keys_append, List.mem_append]
      rintro (hname | hname)
      · exact hafter hname
      · exact hne (List.mem_singleton.mp hname)

/-- **ASSIGNMENTS**: fields built from pairs are what the pairs assign. -/
theorem assigned_ofPairs (pairs : List (Text × α)) : Assigned pairs (ofPairs pairs) := by
  suffices hrun : ∀ seen fields, Assigned seen fields → Assigned (seen ++ pairs)
      (pairs.foldl (fun fields pair => insert pair.1 pair.2 fields) fields) from
    hrun [] [] ⟨.nil, fun _ => Iff.rfl, .nil, nofun⟩
  induction pairs with
  | nil =>
      intro seen fields h
      rwa [List.append_nil]
  | cons pair rest ih =>
      intro seen fields h
      rw [List.append_cons]
      exact ih _ _ (h.insert pair.1 pair.2)

/-! ## No other fields -/

instance (names : List Text) : Std.Irrefl (Before names) :=
  ⟨fun _ => Nat.lt_irrefl _⟩

instance (names : List Text) : Std.Antisymm (Before names) :=
  ⟨fun _ _ hlt hgt => absurd hgt (Nat.lt_asymm hlt)⟩

/-- The last mention of a name has one entry. -/
theorem last_unique {name : Text} {entry other : α} {before after before' after' : Fields α}
    (h : before ++ (name, entry) :: after = before' ++ (name, other) :: after')
    (hafter : name ∉ keys after) (hafter' : name ∉ keys after') : entry = other := by
  have hmem (front back : Fields α) (value : α) : name ∈ keys (front ++ (name, value) :: back) :=
    List.mem_map.mpr ⟨(name, value), List.mem_append_right front List.mem_cons_self, rfl⟩
  rcases List.append_eq_append_iff.mp h with ⟨middle, -, hcut⟩ | ⟨middle, -, hcut⟩
  · cases middle with
    | nil => exact (Prod.mk.inj (List.cons.inj hcut).1).2
    | cons first middle =>
        rw [(List.cons.inj hcut).2] at hafter
        exact absurd (hmem middle after' other) hafter
  · cases middle with
    | nil => exact (Prod.mk.inj (List.cons.inj hcut).1).2.symm
    | cons first middle =>
        rw [(List.cons.inj hcut).2] at hafter'
        exact absurd (hmem middle after entry) hafter'

/-- Fields are equal if their names are, in order, and each name has one entry in both. -/
theorem eq_of_keys_eq {fields others : Fields α} (hkeys : keys fields = keys others)
    (h : ∀ name entry other, (name, entry) ∈ fields → (name, other) ∈ others → entry = other) :
    fields = others := by
  induction fields generalizing others with
  | nil => exact (List.map_eq_nil_iff.mp hkeys.symm).symm
  | cons field fields ih =>
      cases others with
      | nil => exact nomatch hkeys
      | cons other others =>
          obtain ⟨name, entry⟩ := field
          obtain ⟨name', entry'⟩ := other
          obtain ⟨rfl, hrest⟩ := List.cons.inj hkeys
          rw [h _ _ _ List.mem_cons_self List.mem_cons_self, ih hrest]
          intro name entry other hentry hother
          exact h name entry other (.tail _ hentry) (.tail _ hother)

/-- **UNIQUENESS**: pairs assign one list of fields. -/
theorem Assigned.unique {pairs : List (Text × α)} {fields others : Fields α}
    (h : Assigned pairs fields) (h' : Assigned pairs others) : fields = others := by
  have hkeys : keys fields = keys others := by
    refine h.order.eq_of_mem_iff h'.order ?_
    intro name
    exact (h.mem_keys name).trans (h'.mem_keys name).symm
  refine eq_of_keys_eq hkeys ?_
  intro name entry other hentry hother
  obtain ⟨before, after, hcut, hafter⟩ := h.last name entry hentry
  obtain ⟨before', after', hcut', hafter'⟩ := h'.last name other hother
  exact last_unique (hcut.symm.trans hcut') hafter hafter'

end SqlTemplate.Fields
