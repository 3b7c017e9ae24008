import Mathlib.Data.List.Nodup
import Mathlib.Data.List.Perm.Subperm
import SqlTemplate.Proofs.Rows
import SqlTemplate.Value.Equality

/-!
# Equality — the comparison decides it, and it is a partial equivalence

The comparison of maps looks every field of one up among the fields of the other. As neither repeats
a name and both have as many fields, the fields that it finds are all of the other's, in an order of
their own; and that order is what equality asks for.

* `Binary64.same_iff` — floats are the same if they are one number that is no NaN, or both zeros;
* **`Value.same_iff_equal`** — the comparison decides equality where no map repeats a name, by
  induction over the entries;
* `Value.Equal.symm` and **`Value.Equal.trans`** — an order found on one side is moved to the other
  past the row of equal entries;
* **`Value.equal_self_iff`** — only a NaN keeps a value from being equal to itself;
* `Value.Equal.eq_of_plain` — a value without zeros and maps is equal to itself alone.
-/

namespace SqlTemplate

/-! ## Floats -/

namespace Binary64

theorem isNaN_of_isZero {x : Binary64} (h : x.isZero = true) : x.isNaN = false := by
  rw [isZero, Bool.and_eq_true, beq_iff_eq] at h
  rw [isNaN, h.1]
  rfl

theorem isFinite_of_isZero {x : Binary64} (h : x.isZero = true) : x.isFinite = true := by
  rw [isZero, Bool.and_eq_true, beq_iff_eq] at h
  rw [isFinite, h.1]
  rfl

/-- Floats are the same if they are one number, or zeros of either sign. -/
theorem same_iff {x y : Binary64} :
    x.same y = true ↔ (x.isNaN = false ∧ x = y) ∨ (x.isZero = true ∧ y.isZero = true) := by
  unfold same
  constructor
  · intro h
    simp only [Bool.and_eq_true, Bool.not_eq_true', Bool.or_eq_true, beq_iff_eq] at h
    obtain ⟨⟨hx, -⟩, heq | hzeros⟩ := h
    · exact .inl ⟨hx, heq⟩
    · exact .inr hzeros
  · rintro (⟨hx, rfl⟩ | ⟨hx, hy⟩)
    · simp [hx]
    · simp [isNaN_of_isZero hx, isNaN_of_isZero hy, hx, hy]

end Binary64

namespace Value

/-! ## Rows of fields -/

/-- Rows of fields are equal if their names are, in order, and their values are. -/
theorem forall₂_equalField_iff {fields others : List (Text × Value)} :
    List.Forall₂ EqualField fields others ↔
      Fields.keys fields = Fields.keys others ∧
        List.Forall₂ Equal (fields.map Prod.snd) (others.map Prod.snd) := by
  induction fields generalizing others with
  | nil =>
      cases others with
      | nil => exact iff_of_true .nil ⟨rfl, .nil⟩
      | cons other others => exact iff_of_false nofun nofun
  | cons field fields ih =>
      cases others with
      | nil => exact iff_of_false nofun nofun
      | cons other others =>
          rw [List.forall₂_cons, ih, List.map_cons, List.map_cons, List.forall₂_cons, EqualField]
          show _ ↔ field.1 :: Fields.keys fields = other.1 :: Fields.keys others ∧ _
          rw [List.cons.injEq]
          exact and_and_and_comm

/-- Maps are equal if fields in some order of the other's are equal to those of the one. -/
theorem equal_map_iff {fields others : List (Text × Value)} :
    Equal (.map fields) (.map others) ↔
      ∃ permuted, List.Forall₂ EqualField fields permuted ∧ permuted.Perm others := by
  constructor
  · intro h
    cases h with
    | map hpermuted hkeys h => exact ⟨_, forall₂_equalField_iff.mpr ⟨hkeys, h⟩, hpermuted⟩
  · rintro ⟨permuted, hrow, hpermuted⟩
    obtain ⟨hkeys, h⟩ := forall₂_equalField_iff.mp hrow
    exact .map hpermuted hkeys h

/-! ## The comparison -/

theorem sameItems_iff {items others : List Value} :
    sameItems items others = true ↔ List.Forall₂ (fun a b => same a b = true) items others := by
  induction items generalizing others with
  | nil =>
      cases others with
      | nil => exact iff_of_true (by rw [sameItems]) .nil
      | cons other others => exact iff_of_false (by simp [sameItems]) nofun
  | cons item items ih =>
      cases others with
      | nil => exact iff_of_false (by simp [sameItems]) nofun
      | cons other others => rw [sameItems, Bool.and_eq_true, ih, List.forall₂_cons]

theorem sameFields_iff {fields others : List (Text × Value)} :
    sameFields fields others = true ↔
      ∀ field ∈ fields, ∃ other, Fields.get? field.1 others = some other ∧
        same field.2 other = true := by
  induction fields with
  | nil => exact iff_of_true (by rw [sameFields]) nofun
  | cons field fields ih =>
      obtain ⟨key, value⟩ := field
      rw [sameFields, Bool.and_eq_true, ih, List.forall_mem_cons]
      refine and_congr_left ?_
      intro _
      cases Fields.get? key others with
      | none => exact iff_of_false nofun nofun
      | some other =>
          show same value other = true ↔ ∃ entry, some other = some entry ∧ same value entry = true
          simp

/-- A map that repeats no name is equal to another of its size if each of its fields is equal to one
    of the other's: no two of them are equal to the same one, so none is left over. -/
theorem equal_map_of_found {fields others : List (Text × Value)}
    (hnodup : (Fields.keys fields).Nodup) (hlength : fields.length = others.length)
    (h : ∀ field ∈ fields, ∃ other ∈ others, EqualField field other) :
    Equal (.map fields) (.map others) := by
  obtain ⟨permuted, hrow, hsubset⟩ := exists_forall₂ h
  obtain ⟨hkeys, -⟩ := forall₂_equalField_iff.mp hrow
  have hdistinct : permuted.Nodup := by
    rw [hkeys] at hnodup
    exact List.Nodup.of_map _ hnodup
  have hcount : others.length ≤ permuted.length := by
    rw [← hlength, hrow.length_eq]
  have hpermuted : permuted.Perm others :=
    (List.subperm_of_subset hdistinct hsubset).perm_of_length_le hcount
  exact equal_map_iff.mpr ⟨permuted, hrow, hpermuted⟩

theorem equal_of_same {a b : Value} (ha : a.Distinct) (hb : b.Distinct) (h : a.same b = true) :
    Equal a b := by
  induction a using entries_induction generalizing b with
  | h a ih =>
    unfold same at h
    split at h
    next => exact .null
    next => rw [beq_iff_eq.mp h]; exact .bool _
    next => rw [beq_iff_eq.mp h]; exact .int _
    next =>
      rcases Binary64.same_iff.mp h with ⟨hx, rfl⟩ | ⟨hx, hy⟩
      · exact .float _ hx
      · exact .zeros hx hy
    next => rw [beq_iff_eq.mp h]; exact .string _
    next items others =>
      refine .list (forall₂_imp_of_mem ?_ (sameItems_iff.mp h))
      intro item hitem other hother hsame
      exact ih item hitem (ha.entry hitem) (hb.entry hother) hsame
    next fields others =>
      rw [Bool.and_eq_true, beq_iff_eq] at h
      refine equal_map_of_found (ha fields (.self _)) h.1 ?_
      intro field hfield
      obtain ⟨other, hother, hsame⟩ := sameFields_iff.mp h.2 field hfield
      have hmem : (field.1, other) ∈ others :=
        (Fields.get?_eq_some_iff (hb others (.self _))).mp hother
      have hentry : field.2 ∈ (map fields).entries := List.mem_map_of_mem hfield
      have hentry' : other ∈ (map others).entries := List.mem_map.mpr ⟨_, hmem, rfl⟩
      exact ⟨(field.1, other), hmem, rfl,
        ih field.2 hentry (ha.entry hentry) (hb.entry hentry') hsame⟩
    next => exact .skip
    next => exact nomatch h

theorem same_of_equal {a b : Value} (hb : b.Distinct) (h : Equal a b) : a.same b = true := by
  induction a using entries_induction generalizing b with
  | h a ih =>
    cases h with
    | null | skip => rw [same]
    | bool | int | string => rw [same, beq_iff_eq]
    | float x hx => rw [same]; exact Binary64.same_iff.mpr (.inl ⟨hx, rfl⟩)
    | zeros hx hy => rw [same]; exact Binary64.same_iff.mpr (.inr ⟨hx, hy⟩)
    | list h =>
      rw [same]
      refine sameItems_iff.mpr (forall₂_imp_of_mem ?_ h)
      intro item hitem other hother hequal
      exact ih item hitem (hb.entry hother) hequal
    | @map fields permuted others hpermuted hkeys hentries =>
      have hrow := forall₂_equalField_iff.mpr ⟨hkeys, hentries⟩
      rw [same, Bool.and_eq_true, beq_iff_eq]
      refine ⟨hrow.length_eq.trans hpermuted.length_eq, sameFields_iff.mpr ?_⟩
      intro field hfield
      obtain ⟨other, hother, hname, hequal⟩ := exists_of_mem_forall₂ hrow.flip hfield
      have hmem : (field.1, other.2) ∈ others := by
        rw [hname]
        exact hpermuted.subset hother
      have hentry : other.2 ∈ (map others).entries := List.mem_map.mpr ⟨_, hmem, rfl⟩
      exact ⟨other.2, (Fields.get?_eq_some_iff (hb others (.self _))).mpr hmem,
        ih field.2 (List.mem_map_of_mem hfield) (hb.entry hentry) hequal⟩

/-- **COMPARISON**: values in which no map repeats a name compare as the same exactly if they are
    equal. -/
theorem same_iff_equal {a b : Value} (ha : a.Distinct) (hb : b.Distinct) :
    a.same b = true ↔ Equal a b :=
  ⟨equal_of_same ha hb, same_of_equal hb⟩

/-! ## A partial equivalence -/

theorem Equal.symm {a b : Value} (h : Equal a b) : Equal b a := by
  induction a using entries_induction generalizing b with
  | h a ih =>
    cases h with
    | null => exact .null
    | bool b => exact .bool b
    | int n => exact .int n
    | float x hx => exact .float x hx
    | zeros hx hy => exact .zeros hy hx
    | string s => exact .string s
    | list h =>
      refine .list (List.Forall₂.flip (forall₂_imp_of_mem ?_ h))
      intro item hitem other _ hequal
      exact ih item hitem hequal
    | @map fields permuted others hpermuted hkeys hentries =>
      have hrow := forall₂_equalField_iff.mpr ⟨hkeys, hentries⟩
      have hback : List.Forall₂ EqualField permuted fields := by
        refine List.Forall₂.flip (forall₂_imp_of_mem ?_ hrow)
        intro field hfield other _ hequal
        exact ⟨hequal.1.symm, ih field.2 (List.mem_map_of_mem hfield) hequal.2⟩
      exact equal_map_iff.mpr (List.perm_comp_forall₂ hpermuted.symm hback)
    | skip => exact .skip

/-- **TRANSITIVITY**: in a map, the order that the second equality found is moved past the row of
    the first one, so that the two rows are joined. -/
theorem Equal.trans {a b c : Value} (h : Equal a b) (h' : Equal b c) : Equal a c := by
  induction a using entries_induction generalizing b c with
  | h a ih =>
    cases h with
    | null | bool b | int n | string s | skip => exact h'
    | float x hx => exact h'
    | zeros hx hy =>
      cases h' with
      | float => exact .zeros hx hy
      | zeros _ hz => exact .zeros hx hz
    | list h =>
      cases h' with
      | list h' =>
        refine .list (forall₂_trans ?_ h h')
        intro item hitem other third hequal hequal'
        exact ih item hitem hequal hequal'
    | @map fields permuted others hpermuted hkeys hentries =>
      cases h' with
      | @map _ permuted' thirds hpermuted' hkeys' hentries' =>
        have hrow := forall₂_equalField_iff.mpr ⟨hkeys, hentries⟩
        have hrow' := forall₂_equalField_iff.mpr ⟨hkeys', hentries'⟩
        obtain ⟨moved, hmoved, hperm⟩ := List.perm_comp_forall₂ hpermuted hrow'
        refine equal_map_iff.mpr ⟨moved, forall₂_trans ?_ hrow hmoved, hperm.trans hpermuted'⟩
        intro field hfield other third hequal hequal'
        exact ⟨hequal.1.trans hequal'.1,
          ih field.2 (List.mem_map_of_mem hfield) hequal.2 hequal'.2⟩

/-- An entry of a value is equal to some entry of an equal one. -/
theorem Equal.exists_entry {a b entry : Value} (h : Equal a b) (hentry : entry ∈ a.entries) :
    ∃ other ∈ b.entries, Equal entry other := by
  cases h with
  | list h => exact exists_of_mem_forall₂ h.flip hentry
  | map hpermuted _ h =>
    obtain ⟨other, hother, hequal⟩ := exists_of_mem_forall₂ h.flip hentry
    exact ⟨other, (hpermuted.map Prod.snd).subset hother, hequal⟩
  | _ => exact nomatch hentry

/-- A value that is equal to any has no NaN in it. -/
theorem Equal.comparable {a b : Value} (h : Equal a b) : a.Comparable := by
  intro x hx
  induction hx generalizing b with
  | self =>
    cases h with
    | float _ hx => exact hx
    | zeros hx _ => exact Binary64.isNaN_of_isZero hx
  | entry _ hentry ih =>
    obtain ⟨other, -, hequal⟩ := h.exists_entry hentry
    exact ih hequal

/-- **REFLEXIVITY**: a value is equal to itself exactly if it has no NaN in it, at any depth. -/
theorem equal_self_iff {value : Value} : Equal value value ↔ value.Comparable := by
  refine ⟨Equal.comparable, ?_⟩
  induction value using entries_induction with
  | h value ih =>
    intro h
    have hentries : ∀ entry ∈ value.entries, Equal entry entry :=
      fun entry hentry => ih entry hentry (h.entry hentry)
    cases value with
    | null => exact .null
    | bool b => exact .bool b
    | int n => exact .int n
    | float x => exact .float x (h x (.self _))
    | string s => exact .string s
    | list items => exact .list (List.forall₂_same.mpr hentries)
    | map fields => exact .map (.refl fields) rfl (List.forall₂_same.mpr hentries)
    | skip => exact .skip

/-- **IDENTITY**: a value without zeros and maps is equal to no value but itself. -/
theorem Equal.eq_of_plain {a b : Value} (h : Equal a b) (ha : a.Plain) : a = b := by
  induction a using entries_induction generalizing b with
  | h a ih =>
    cases h with
    | null | bool | int | float | string | skip => rfl
    | zeros hx _ =>
      have hnonzero := ha.float _ (.self _)
      rw [hx] at hnonzero
      exact nomatch hnonzero
    | @list items others h =>
      have heq : List.Forall₂ (· = ·) items others := by
        refine forall₂_imp_of_mem ?_ h
        intro item hitem other _ hequal
        exact ih item hitem hequal (ha.entry hitem)
      rw [List.forall₂_eq_eq_eq] at heq
      rw [heq]
    | map => exact absurd (.self _) (ha.map _)

end Value
end SqlTemplate
