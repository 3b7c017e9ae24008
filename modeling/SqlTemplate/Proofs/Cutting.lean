import SqlTemplate.Proofs.Markers
import SqlTemplate.Proofs.Sequence

/-!
# Cutting — a skip marker does what cutting the template beforehand does

A call with skip markers drops the blocks of its template. A caller who drops them first and passes
the other parameters alone gets the same, although that call takes another way: it may have no
parameters at all, it unwraps blocks where the first one removes them, and it counts fewer
parameters when it tells a literal from an identifier.

* `fillings_withoutMarkers` — the texts for the parameters are the same, unless a string is left
  alone;
* `compile_cut_of_ok` — so a call that succeeds has the same SQL on the template cut beforehand, if
  that has nothing left to unwrap;
* `compile_cut_of_error` — and a call that fails has the same fault of the same parameter, which is
  counted without the markers before it;
* **`compile_cut`** puts these together.
-/

namespace SqlTemplate

/-! ## Parameters without markers -/

theorem Value.skip_not_mem_withoutMarkers (params : List Value) :
    .skip ∉ withoutMarkers params := by
  intro hmem
  obtain ⟨-, hreal⟩ := List.mem_filter.mp hmem
  exact absurd hreal (by decide)

/-- A row of parameters is as long as that of the others and the markers together. -/
theorem Value.length_withoutMarkers (params : List Value) :
    (withoutMarkers params).length + params.countP isSkip = params.length := by
  rw [withoutMarkers, ← List.countP_eq_length_filter, List.length_eq_countP_add_countP isSkip,
    Nat.add_comm]
  simp only [Bool.not_eq_true, Bool.decide_eq_false]

/-- Parameters that are no single string are steady. -/
theorem Value.steady_of_ne_string {params : List Value} (h : ∀ s, params ≠ [.string s]) :
    Steady params := by
  match params, h with
  | [], _ =>
      refine Or.inr ?_
      intro s hs
      exact nomatch hs
  | [value], h =>
      refine Or.inr ?_
      intro s hs
      rw [List.mem_singleton] at hs
      exact h s (by rw [hs])
  | _ :: _ :: rest, _ => exact Or.inl (Nat.succ_lt_succ (Nat.succ_pos rest.length))

/-- The texts for parameters with markers are those for the others, counted with the markers or
    without them. -/
theorem fillings_withoutMarkers {params : List Value} (hmarker : .skip ∈ params)
    (hsteady : Value.Steady (Value.withoutMarkers params))
    (hne : Value.withoutMarkers params ≠ []) (escape : Escaper) :
    Compilation.fillings escape (Value.withoutMarkers params) =
      Compilation.fillings escape params := by
  obtain ⟨value, hvalue⟩ := List.exists_mem_of_ne_nil _ hne
  have hcount : 1 < params.length := one_lt_length_of_marker hmarker hvalue
  rw [Compilation.fillings_eq, Compilation.fillings_eq, filterMap_of_steady hsteady hcount,
    filterMap_withoutMarkers]

/-! ## The call on the template cut beforehand -/

section

variable {escape : Escaper} {template : Text} {params : List Value}

/-- A call that succeeds has the same SQL on the template cut beforehand. -/
theorem compile_cut_of_ok {sql : Text} (hmarker : .skip ∈ params)
    (hsteady : Value.Steady (Value.withoutMarkers params))
    (hblocks : ¬('\x7b' ∈ Block.remove template ∧ '\x7d' ∈ Block.remove template))
    (h : compile escape template params = .ok sql) :
    compile escape (Block.remove template) (Value.withoutMarkers params) = .ok sql := by
  obtain ⟨pairs, hpairs, hsql⟩ := (compile_eq_ok_iff (List.ne_nil_of_mem hmarker)).mp h
  rw [any_isSkip_of_marker hmarker] at hsql
  by_cases hreal : Value.withoutMarkers params = []
  · -- without parameters the template is the SQL, and the markers put nothing in place either
    have hnone : pairs = [] := by
      rw [Compilation.fillings_eq, ← filterMap_withoutMarkers, hreal] at hpairs
      exact (Except.ok.inj hpairs).symm
    rw [hreal, hsql, hnone]
    rfl
  · refine (compile_eq_ok_iff hreal).mpr ⟨pairs, ?_, ?_⟩
    · rw [fillings_withoutMarkers hmarker hsteady hreal, hpairs]
    · have hresolve : Block.resolve false (Block.remove template) = Block.remove template :=
        if_neg hblocks
      rw [any_isSkip_of_no_marker (Value.skip_not_mem_withoutMarkers params), hresolve, hsql]
      rfl

/-- A call that fails has the same fault of the same parameter without the markers, whatever the
    template. -/
theorem compile_cut_of_error {rejection : Rejection} (other : Text)
    (h : compile escape template params = .error rejection) :
    ∃ before value after, params = before ++ value :: after ∧ value.isSkip = false ∧
      rejection.index = before.length ∧
      Value.withoutMarkers params =
        Value.withoutMarkers before ++ value :: Value.withoutMarkers after ∧
      compile escape other (Value.withoutMarkers params) =
        .error ⟨(Value.withoutMarkers before).length, rejection.fault⟩ := by
  obtain ⟨before, value, after, rfl, hindex, hvalue, hbefore⟩ := compile_eq_error_iff.mp h
  have hskip : value.isSkip = false := by
    cases hskip : value.isSkip with
    | false => rfl
    | true =>
        rw [Value.fault?_of_isSkip hskip] at hvalue
        exact nomatch hvalue
  have hcut : Value.withoutMarkers (before ++ value :: after) =
      Value.withoutMarkers before ++ value :: Value.withoutMarkers after := by
    simp [Value.withoutMarkers, hskip]
  refine ⟨before, value, after, rfl, hskip, hindex, hcut, ?_⟩
  refine compile_eq_error_iff.mpr ⟨_, value, _, hcut, rfl, hvalue, ?_⟩
  intro other hother
  exact hbefore other (List.mem_filter.mp hother).1

/-- **CUTTING**: a call with skip markers has the SQL of the call on the template without its blocks
    with the other parameters, if these are not one string and no blocks are left to unwrap; or both
    fail with the same fault of the same parameter, and the positions they report differ by the
    number of markers before it. -/
theorem compile_cut (hmarker : .skip ∈ params)
    (halone : ∀ s, Value.withoutMarkers params ≠ [.string s])
    (hblocks : ¬('\x7b' ∈ Block.remove template ∧ '\x7d' ∈ Block.remove template)) :
    (∃ sql, compile escape template params = .ok sql ∧
      compile escape (Block.remove template) (Value.withoutMarkers params) = .ok sql) ∨
    ∃ before value after index fault, params = before ++ value :: after ∧ value.isSkip = false ∧
      Value.withoutMarkers params =
        Value.withoutMarkers before ++ value :: Value.withoutMarkers after ∧
      index = (Value.withoutMarkers before).length ∧
      compile escape template params = .error ⟨index + before.countP Value.isSkip, fault⟩ ∧
      compile escape (Block.remove template) (Value.withoutMarkers params) =
        .error ⟨index, fault⟩ := by
  have hsteady : Value.Steady (Value.withoutMarkers params) := Value.steady_of_ne_string halone
  cases h : compile escape template params with
  | ok sql => exact Or.inl ⟨sql, rfl, compile_cut_of_ok hmarker hsteady hblocks h⟩
  | error rejection =>
      obtain ⟨before, value, after, hparams, hskip, hindex, hcut, hother⟩ :=
        compile_cut_of_error (Block.remove template) h
      refine Or.inr ⟨before, value, after, _, rejection.fault, hparams, hskip, hcut, rfl, ?_,
        hother⟩
      rw [Value.length_withoutMarkers, ← hindex]

end

/-- Cutting leaves a brace that is never closed; the list at fault stands behind two markers. -/
theorem compile_cut_unclosed :
    Block.remove "é\x7b?d\x7b\x7d\x7d?#\x7b?d".toList = "é?#\x7b?d".toList ∧
    ((∃ sql, compile id "é\x7b?d\x7b\x7d\x7d?#\x7b?d".toList
          [.skip, .string "n".toList, .skip, .list [.null, .skip]] = .ok sql ∧
        compile id (Block.remove "é\x7b?d\x7b\x7d\x7d?#\x7b?d".toList)
          [.string "n".toList, .list [.null, .skip]] = .ok sql) ∨
      ∃ before value after index fault,
        [.skip, .string "n".toList, .skip, .list [.null, .skip]] = before ++ value :: after ∧
        value.isSkip = false ∧
        [.string "n".toList, .list [.null, .skip]] =
          Value.withoutMarkers before ++ value :: Value.withoutMarkers after ∧
        index = (Value.withoutMarkers before).length ∧
        compile id "é\x7b?d\x7b\x7d\x7d?#\x7b?d".toList
          [.skip, .string "n".toList, .skip, .list [.null, .skip]] =
            .error ⟨index + before.countP Value.isSkip, fault⟩ ∧
        compile id (Block.remove "é\x7b?d\x7b\x7d\x7d?#\x7b?d".toList)
          [.string "n".toList, .list [.null, .skip]] = .error ⟨index, fault⟩) := by
  have halone : ∀ s, Value.withoutMarkers
      [.skip, .string "n".toList, .skip, .list [.null, .skip]] ≠ [.string s] := by
    intro s heq
    exact nomatch List.tail_eq_of_cons_eq heq
  refine ⟨by decide, ?_⟩
  exact compile_cut (by simp) halone (by decide)

end SqlTemplate
