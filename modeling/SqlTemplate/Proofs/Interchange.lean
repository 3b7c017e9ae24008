import SqlTemplate.Proofs.Conversion
import SqlTemplate.Proofs.Equality
import SqlTemplate.Proofs.Rejections

/-!
# Interchange — equal parameters have equal standing

A parameter can stand for an equal one. Where they differ is in the sign of a zero and in the order
of a map's fields, and neither has a part in whether a parameter can be written. So the call that
succeeds with the one succeeds with the other, and the call that fails does so at the same position,
if not always for the same entry.

* `Value.Equal.fault?_eq_none` — equal values are both at fault or neither is;
* `index_rejectionFrom?_eq` — the run: lists of parameters that are at fault in the same places are
  rejected for the same position, by induction on the lists;
* **`compile_endsAlike`** — so are whole calls;
* `Value.Mirrors.distinct` — the values of documents are among those that the comparison is made
  for, in which no map repeats a name;
* **`Value.same_interchangeable`** is about that comparison, and says besides that it is a partial
  equivalence.
-/

namespace SqlTemplate

/-! ## Faults of equal values -/

/-- Equal values have the same fault as entries, whatever the order of fields inside. -/
theorem Value.Equal.entryFault?_eq {a b : Value} (h : Equal a b) :
    a.entryFault? = b.entryFault? := by
  cases h with
  | zeros hx hy =>
      rw [entryFault?, entryFault?, Binary64.isFinite_of_isZero hx, Binary64.isFinite_of_isZero hy]
  | _ => rfl

/-- A value that is equal to one without a fault has none. -/
theorem Value.Equal.fault?_eq_none {a b : Value} (h : Equal a b) (ha : a.fault? = none) :
    b.fault? = none := by
  cases h with
  | zeros _ hy => exact if_pos (Binary64.isFinite_of_isZero hy)
  | list h =>
      have hrow := findSome?_eq_of_forall₂ (h.imp fun _ _ => Equal.entryFault?_eq)
      exact hrow.symm.trans ha
  | @map fields permuted others hpermuted hkeys hentries =>
      have hequal : Equal (.map others) (.map fields) :=
        (Equal.map hpermuted hkeys hentries).symm
      rw [fault?, List.findSome?_eq_none_iff] at ha ⊢
      intro other hother
      -- the entry was at fault in the other map too, if under another number
      obtain ⟨entry, hentry, heq⟩ := hequal.exists_entry (List.mem_map_of_mem hother)
      obtain ⟨field, hfield, rfl⟩ := List.mem_map.mp hentry
      exact heq.entryFault?_eq.trans (ha field hfield)
  | _ => exact ha

theorem Value.Equal.fault?_eq_none_iff {a b : Value} (h : Equal a b) :
    a.fault? = none ↔ b.fault? = none :=
  ⟨h.fault?_eq_none, h.symm.fault?_eq_none⟩

/-! ## The run -/

/-- Parameters that are at fault in the same places are rejected for the same position. -/
theorem index_rejectionFrom?_eq {params others : List Value}
    (h : List.Forall₂ (fun a b => a.fault? = none ↔ b.fault? = none) params others)
    (start : Nat) :
    (rejectionFrom? start params).map Rejection.index =
      (rejectionFrom? start others).map Rejection.index := by
  induction h generalizing start with
  | nil => rfl
  | @cons a b params others hhead _ ih =>
      cases ha : a.fault? with
      | none =>
          rw [rejectionFrom?_cons_of_none ha, rejectionFrom?_cons_of_none (hhead.mp ha)]
          exact ih (start + 1)
      | some fault =>
          have hb : b.fault? ≠ none := fun hb => nomatch (hhead.mpr hb).symm.trans ha
          obtain ⟨fault', hb⟩ := Option.ne_none_iff_exists'.mp hb
          rw [rejectionFrom?_cons_of_some ha, rejectionFrom?_cons_of_some hb]
          rfl

/-- Two calls both succeed, or both fail at the same position. -/
inductive EndsAlike : Except Rejection Text → Except Rejection Text → Prop where
  | ok (sql other : Text) : EndsAlike (.ok sql) (.ok other)
  | error (index : Nat) (fault other : Fault) :
      EndsAlike (.error ⟨index, fault⟩) (.error ⟨index, other⟩)

theorem endsAlike_of_index_eq {result other : Except Rejection Text}
    (h : (error? result).map Rejection.index = (error? other).map Rejection.index) :
    EndsAlike result other := by
  cases result with
  | ok sql =>
      cases other with
      | ok sql' => exact .ok sql sql'
      | error rejection => exact nomatch h
  | error rejection =>
      cases other with
      | ok sql => exact nomatch h
      | error rejection' =>
          obtain ⟨index, fault⟩ := rejection
          obtain ⟨index', fault'⟩ := rejection'
          obtain rfl : index = index' := Option.some.inj h
          exact .error index fault fault'

/-- **CALLS**: lists of parameters that are at fault in the same places end alike, in any
    template. -/
theorem compile_endsAlike {params others : List Value}
    (h : List.Forall₂ (fun a b => a.fault? = none ↔ b.fault? = none) params others)
    (escape : Escaper) (template : Text) :
    EndsAlike (compile escape template params) (compile escape template others) := by
  refine endsAlike_of_index_eq ?_
  rw [error?_compile, error?_compile]
  exact index_rejectionFrom?_eq h 0

/-! ## One parameter for another -/

namespace Value

/-- A parameter can change places with an equal one: both calls succeed or both fail at the same
    position. -/
theorem Equal.compile_endsAlike {a b : Value} (h : Equal a b) (escape : Escaper) (template : Text)
    (before after : List Value) :
    EndsAlike (compile escape template (before ++ a :: after))
      (compile escape template (before ++ b :: after)) := by
  refine SqlTemplate.compile_endsAlike ?_ escape template
  refine List.rel_append (List.forall₂_same.mpr ?_) (.cons h.fault?_eq_none_iff
    (List.forall₂_same.mpr ?_))
  · exact fun _ _ => Iff.rfl
  · exact fun _ _ => Iff.rfl

/-- A value that mirrors a document repeats no name in a map, if no object in the document does. -/
theorem Mirrors.distinct {json : Json} {value : Value} (h : Mirrors json value)
    (hjson : json.Distinct) : value.Distinct := by
  intro fields hfields
  obtain ⟨source, hsource, hmirrors⟩ := h.part hfields
  cases hmirrors with
  | @object members _ hkeys _ =>
      rw [← hkeys]
      exact hjson members hsource

/-- **INTERCHANGE**: values in which no map repeats a name compare as the same exactly if they are
    equal. Then a call with one of them succeeds or fails at a position as the call with the other
    one does, and without zeros and maps in either it ends in the same way altogether. To compare
    as the same is symmetric and transitive, and a value does so with itself exactly if it has no
    NaN in it. -/
theorem same_interchangeable (a b : Value) (ha : a.Distinct) (hb : b.Distinct) :
    (a.same b = true ↔ Equal a b) ∧
    (a.same b = true → ∀ (escape : Escaper) (template : Text) (before after : List Value),
      EndsAlike (compile escape template (before ++ a :: after))
          (compile escape template (before ++ b :: after)) ∧
        (a.Plain → b.Plain → compile escape template (before ++ a :: after) =
          compile escape template (before ++ b :: after))) ∧
    (a.same b = true ↔ b.same a = true) ∧
    (∀ c : Value, c.Distinct → a.same b = true → b.same c = true → a.same c = true) ∧
    (a.same a = true ↔ ∀ x, Within (.float x) a → x.isNaN = false) := by
  refine ⟨same_iff_equal ha hb, ?_, ?_, ?_, ?_⟩
  · intro hsame escape template before after
    have h : Equal a b := (same_iff_equal ha hb).mp hsame
    refine ⟨h.compile_endsAlike escape template before after, ?_⟩
    intro hplain _
    rw [h.eq_of_plain hplain]
  · rw [same_iff_equal ha hb, same_iff_equal hb ha]
    exact ⟨Equal.symm, Equal.symm⟩
  · intro c hc
    rw [same_iff_equal ha hb, same_iff_equal hb hc, same_iff_equal ha hc]
    exact Equal.trans
  · exact (same_iff_equal ha ha).trans equal_self_iff

/-- A map with a zero and with two entries at fault. -/
def faulty : Value :=
  .ofPairs [("a".toList, .float ⟨0⟩), ("b".toList, .skip), ("c".toList, .list [])]

/-- The same map with its fields in another order and the zero of the other sign. -/
def faultyMoved : Value :=
  .ofPairs [("c".toList, .list []), ("a".toList, .float ⟨0x8000000000000000⟩), ("b".toList, .skip)]

theorem distinct_faulty : faulty.Distinct := by
  refine distinct_ofPairs ?_
  simp only [List.forall_mem_cons]
  exact ⟨distinct_of_entries nofun nofun, distinct_of_entries nofun nofun,
    distinct_of_entries nofun nofun, nofun⟩

theorem distinct_faultyMoved : faultyMoved.Distinct := by
  refine distinct_ofPairs ?_
  simp only [List.forall_mem_cons]
  exact ⟨distinct_of_entries nofun nofun, distinct_of_entries nofun nofun,
    distinct_of_entries nofun nofun, nofun⟩

/-- The two maps are rejected at one position, each for the entry at fault that it has first. -/
theorem same_interchangeable_faulty :
    faulty.same faultyMoved = true ∧
    EndsAlike (compile id "?d ?a".toList [.int 1, faulty])
      (compile id "?d ?a".toList [.int 1, faultyMoved]) ∧
    compile id "?d ?a".toList [.int 1, faulty] = .error ⟨1, .nestedSkip⟩ ∧
    compile id "?d ?a".toList [.int 1, faultyMoved] = .error ⟨1, .nestedList⟩ ∧
    faultyMoved.same faulty = true := by
  have h := same_interchangeable faulty faultyMoved distinct_faulty distinct_faultyMoved
  have hsame : faulty.same faultyMoved = true := by decide
  have hends := h.2.1 hsame id "?d ?a".toList [.int 1] []
  exact ⟨hsame, hends.1, by decide, by decide, h.2.2.1.mp hsame⟩

end Value
end SqlTemplate
