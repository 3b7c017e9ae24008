import SqlTemplate.Text

/-!
# Fields — named entries in the order of their first mention

Maps, objects and settings are lists of named entries. A name that is given again keeps its first
place and takes the last entry.

* `Fields.insert` adds or replaces one entry, and `Fields.ofPairs` builds fields from any pairs;
* `get?_eq_some_iff` finds an entry by its name;
* `keys_insert` gives the names after an insertion, and `nodup_keys_ofPairs` says that fields
  built from pairs never repeat a name.
-/

namespace SqlTemplate

/-- Named entries in order. -/
abbrev Fields (α : Type) := List (Text × α)

namespace Fields

variable {α : Type}

/-- The names, in order. -/
def keys (fields : Fields α) : List Text :=
  fields.map Prod.fst

/-- The first entry of a name. -/
def get? (key : Text) : Fields α → Option α
  | [] => none
  | (name, entry) :: rest => if name = key then some entry else get? key rest

/-- The fields with an entry put in the place of the one of that name, or added at the end. -/
def insert (key : Text) (entry : α) : Fields α → Fields α
  | [] => [(key, entry)]
  | (name, old) :: rest =>
    if name = key then (name, entry) :: rest else (name, old) :: insert key entry rest

/-- The fields that result from inserting pairs one after the other. -/
def ofPairs (pairs : List (Text × α)) : Fields α :=
  pairs.foldl (fun fields (key, entry) => insert key entry fields) []

/-- Where no name is repeated, the entry of a name is the one that stands beside it. -/
theorem get?_eq_some_iff {key : Text} {entry : α} {fields : Fields α} (h : (keys fields).Nodup) :
    get? key fields = some entry ↔ (key, entry) ∈ fields := by
  induction fields with
  | nil => exact iff_of_false nofun nofun
  | cons field rest ih =>
      obtain ⟨name, first⟩ := field
      obtain ⟨hname, hrest⟩ := List.nodup_cons.mp h
      rw [get?, List.mem_cons, Prod.mk.injEq]
      by_cases heq : name = key
      · subst heq
        have hnot : (name, entry) ∉ rest :=
          fun hmem => hname (List.mem_map.mpr ⟨(name, entry), hmem, rfl⟩)
        rw [if_pos rfl, Option.some.injEq]
        simp only [hnot, or_false, true_and]
        exact eq_comm
      · rw [if_neg heq, ih hrest]
        simp only [Ne.symm heq, false_and, false_or]

/-! ## Names after an insertion -/

/-- An insertion keeps the names in place and adds a new one at the end. -/
theorem keys_insert (key : Text) (entry : α) (fields : Fields α) :
    keys (insert key entry fields) =
      if key ∈ keys fields then keys fields else keys fields ++ [key] := by
  induction fields with
  | nil => simp [insert, keys]
  | cons field rest ih =>
      obtain ⟨name, old⟩ := field
      by_cases h : name = key
      · simp [insert, keys, h]
      · have hcons : keys (insert key entry ((name, old) :: rest)) =
            name :: keys (insert key entry rest) := by
          simp [insert, keys, h]
        have hmem : key ∈ keys ((name, old) :: rest) ↔ key ∈ keys rest := by
          simp [keys, Ne.symm h]
        rw [hcons, ih]
        by_cases hrest : key ∈ keys rest
        · rw [if_pos hrest, if_pos (hmem.mpr hrest)]
          rfl
        · rw [if_neg hrest, if_neg (mt hmem.mp hrest)]
          rfl

/-- An insertion repeats no name. -/
theorem nodup_keys_insert (key : Text) (entry : α) {fields : Fields α} (h : (keys fields).Nodup) :
    (keys (insert key entry fields)).Nodup := by
  rw [keys_insert]
  by_cases hmem : key ∈ keys fields
  · rwa [if_pos hmem]
  · rw [if_neg hmem]
    refine List.nodup_append.mpr ⟨h, by simp, ?_⟩
    intro a ha b hb heq
    rw [List.mem_singleton] at hb
    exact hmem (hb ▸ heq ▸ ha)

/-- An entry after an insertion is the inserted one or was there before. -/
theorem eq_or_mem_of_mem_insert {key : Text} {entry other : α} {fields : Fields α}
    (h : other ∈ (insert key entry fields).map Prod.snd) :
    other = entry ∨ other ∈ fields.map Prod.snd := by
  induction fields with
  | nil => exact Or.inl (List.mem_singleton.mp h)
  | cons field rest ih =>
      obtain ⟨name, old⟩ := field
      rw [insert] at h
      split at h
      · exact (List.mem_cons.mp h).imp_right (List.mem_cons_of_mem _)
      · rcases List.mem_cons.mp h with rfl | h
        · exact Or.inr List.mem_cons_self
        · exact (ih h).imp_right (List.mem_cons_of_mem _)

/-- Fields built from pairs repeat no name. -/
theorem nodup_keys_ofPairs (pairs : List (Text × α)) : (keys (ofPairs pairs)).Nodup := by
  suffices h : ∀ fields : Fields α, (keys fields).Nodup →
      (keys (pairs.foldl (fun fields (key, entry) => insert key entry fields) fields)).Nodup from
    h [] (by simp [keys])
  induction pairs with
  | nil => exact fun _ h => h
  | cons pair rest ih => exact fun _ h => ih _ (nodup_keys_insert pair.1 pair.2 h)

/-! ## Fields built from distinct names -/

/-- An insertion of a new name adds it at the end. -/
theorem insert_of_not_mem {key : Text} {fields : Fields α} (h : key ∉ keys fields) (entry : α) :
    insert key entry fields = fields ++ [(key, entry)] := by
  induction fields with
  | nil => rfl
  | cons field rest ih =>
      obtain ⟨hname, hrest⟩ := not_or.mp (mt List.mem_cons.mpr h)
      rw [insert, if_neg (Ne.symm hname), ih hrest]
      rfl

/-- Pairs that repeat no name are the fields built from them. -/
theorem ofPairs_eq_self {pairs : List (Text × α)} (h : (keys pairs).Nodup) :
    ofPairs pairs = pairs := by
  suffices hrun : ∀ fields : Fields α, (keys (fields ++ pairs)).Nodup →
      pairs.foldl (fun fields (key, entry) => insert key entry fields) fields = fields ++ pairs from
    hrun [] h
  induction pairs with
  | nil => exact fun fields _ => (List.append_nil fields).symm
  | cons pair rest ih =>
      obtain ⟨key, entry⟩ := pair
      intro fields hfields
      have hassoc : fields ++ (key, entry) :: rest = (fields ++ [(key, entry)]) ++ rest := by simp
      have hnew : key ∉ keys fields := by
        intro hmem
        rw [keys, List.map_append, List.map_cons] at hfields
        exact (List.nodup_append.mp hfields).2.2 _ hmem _ List.mem_cons_self rfl
      show rest.foldl _ (insert key entry fields) = _
      rw [insert_of_not_mem hnew, hassoc]
      exact ih (List.nodup_cons.mp h).2 _ (hassoc ▸ hfields)

end Fields
end SqlTemplate
