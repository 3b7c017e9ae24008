import SqlTemplate.Proofs.Blocks
import SqlTemplate.Proofs.Rejections

/-!
# Markers — with a skip marker, what blocks hold is of no account

A call with a skip marker drops its blocks. What comes of it depends on the text outside of the
blocks and on the other parameters alone: not on what the blocks hold, and not on how many markers
there are and where they stand.

* `fillings_of_markers` — calls with the same parameters but for markers put the same texts in
  place; a string among them is an identifier in both, since a marker stands beside it;
* `remove_refilled` — templates that differ in their blocks are the same without them;
* `exists_same_fault` — the first parameter at fault is the same, behind the same parameters;
* **`compile_of_markers`** puts these together.
-/

namespace SqlTemplate

/-- The parameters that are no skip markers. -/
def Value.withoutMarkers (params : List Value) : List Value :=
  params.filter fun value => !value.isSkip

/-! ## The same texts -/

theorem filterMap_withoutMarkers (count : Nat) (params : List Value) :
    (Value.withoutMarkers params).filterMap (Param.classify? count) =
      params.filterMap (Param.classify? count) := by
  rw [Value.withoutMarkers, List.filterMap_filter]
  refine congrArg (List.filterMap · params) (funext fun value => ?_)
  cases value <;> rfl

/-- A parameter beside a marker is not alone. -/
theorem one_lt_length_of_marker {params : List Value} {value : Value} (hmarker : .skip ∈ params)
    (hvalue : value ∈ Value.withoutMarkers params) : 1 < params.length := by
  obtain ⟨hmem, hreal⟩ := List.mem_filter.mp hvalue
  match params, hmarker, hmem with
  | [other], hmarker, hmem =>
      rw [List.mem_singleton.mp hmem, ← List.mem_singleton.mp hmarker] at hreal
      exact absurd hreal (by decide)
  | _ :: _ :: rest, _, _ => exact Nat.succ_lt_succ (Nat.succ_pos rest.length)

/-- Calls with the same parameters but for markers put the same texts in place. -/
theorem fillings_of_markers {params others : List Value} (hmarker : .skip ∈ params)
    (hmarker' : .skip ∈ others)
    (hreal : Value.withoutMarkers params = Value.withoutMarkers others) (escape : Escaper) :
    Compilation.fillings escape params = Compilation.fillings escape others := by
  rw [Compilation.fillings_eq, Compilation.fillings_eq, ← filterMap_withoutMarkers,
    ← filterMap_withoutMarkers others.length, hreal]
  refine congrArg (List.mapM (Compilation.filling escape)) ?_
  refine List.filterMap_congr fun value hvalue => ?_
  exact Param.classify?_of_lt (one_lt_length_of_marker hmarker (hreal ▸ hvalue))
    (one_lt_length_of_marker hmarker' hvalue) value

theorem any_isSkip_of_marker {params : List Value} (h : .skip ∈ params) :
    params.any Value.isSkip = true :=
  List.any_eq_true.mpr ⟨.skip, h, rfl⟩

/-- Templates that differ in their blocks are the same without them. -/
theorem Block.remove_refilled {template other : Text} (h : Refilled template other) :
    remove template = remove other := by
  obtain ⟨shape, shape', hshape, hshape', hsame, rfl, rfl⟩ := h
  rw [remove_text hshape, remove_text hshape', Shape.outside, Shape.outside, List.flatMap_def,
    List.flatMap_def, hsame.blocks, hsame.last, hsame.rest]

/-- A call succeeds with the SQL of the other. -/
theorem compile_eq_ok_of_markers {escape : Escaper} {template other sql : Text}
    {params others : List Value} (htemplates : Block.Refilled template other)
    (hmarker : .skip ∈ params) (hmarker' : .skip ∈ others)
    (hreal : Value.withoutMarkers params = Value.withoutMarkers others)
    (h : compile escape template params = .ok sql) : compile escape other others = .ok sql := by
  obtain ⟨pairs, hpairs, hsql⟩ := (compile_eq_ok_iff (List.ne_nil_of_mem hmarker)).mp h
  refine (compile_eq_ok_iff (List.ne_nil_of_mem hmarker')).mpr ⟨pairs, ?_, ?_⟩
  · rw [← fillings_of_markers hmarker hmarker' hreal, hpairs]
  · rw [any_isSkip_of_marker hmarker] at hsql
    rw [any_isSkip_of_marker hmarker', hsql]
    show pairs.foldl Compilation.put (Block.remove template) =
      pairs.foldl Compilation.put (Block.remove other)
    rw [Block.remove_refilled htemplates]

/-! ## The same fault -/

/-- The first parameter at fault of one list is that of another with the same parameters but for
    markers, and stands behind the same parameters there. -/
theorem exists_same_fault {before after others : List Value} {value : Value}
    (hreal : Value.withoutMarkers (before ++ value :: after) = Value.withoutMarkers others)
    (hbefore : ∀ other ∈ before, other.fault? = none) (hvalue : value.isSkip = false) :
    ∃ before' after', others = before' ++ value :: after' ∧
      Value.withoutMarkers before = Value.withoutMarkers before' ∧
      ∀ other ∈ before', other.fault? = none := by
  have hcut : Value.withoutMarkers others =
      Value.withoutMarkers before ++ value :: Value.withoutMarkers after := by
    rw [← hreal, Value.withoutMarkers, List.filter_append,
      List.filter_cons_of_pos (by rw [hvalue]; rfl)]
    rfl
  obtain ⟨front, back, rfl, hfront, hback⟩ := List.filter_eq_append_iff.mp hcut
  obtain ⟨markers, after', rfl, hmarkers, -, -⟩ := List.filter_eq_cons_iff.mp hback
  have hsame : Value.withoutMarkers before = Value.withoutMarkers (front ++ markers) := by
    rw [Value.withoutMarkers, Value.withoutMarkers, List.filter_append, hfront,
      List.filter_eq_nil_iff.mpr hmarkers, List.append_nil]
    rfl
  refine ⟨front ++ markers, after', (List.append_assoc _ _ _).symm, hsame, ?_⟩
  intro other hother
  by_cases hskip : other.isSkip = true
  · exact Value.fault?_of_isSkip hskip
  · have hmem : other ∈ Value.withoutMarkers (front ++ markers) :=
      List.mem_filter.mpr ⟨hother, by simpa using hskip⟩
    rw [← hsame] at hmem
    exact hbefore other (List.mem_filter.mp hmem).1

/-- **MARKERS**: two calls with skip markers whose other parameters are the same, on templates that
    differ only in what their blocks hold, have the same SQL, or fail with the same fault of the
    same parameter. -/
theorem compile_of_markers {escape : Escaper} {template other : Text} {params others : List Value}
    (htemplates : Block.Refilled template other)
    (hmarker : .skip ∈ params) (hmarker' : .skip ∈ others)
    (hreal : Value.withoutMarkers params = Value.withoutMarkers others) :
    (∃ sql, compile escape template params = .ok sql ∧ compile escape other others = .ok sql) ∨
    ∃ before value after before' after' fault,
      params = before ++ value :: after ∧ others = before' ++ value :: after' ∧
      value.isSkip = false ∧ Value.withoutMarkers before = Value.withoutMarkers before' ∧
      compile escape template params = .error ⟨before.length, fault⟩ ∧
      compile escape other others = .error ⟨before'.length, fault⟩ := by
  cases hcompile : compile escape template params with
  | ok sql =>
      have hcompile' : compile escape other others = .ok sql :=
        compile_eq_ok_of_markers htemplates hmarker hmarker' hreal hcompile
      exact Or.inl ⟨sql, rfl, hcompile'⟩
  | error rejection =>
      -- the call fails for its first parameter at fault, which the other call has too
      obtain ⟨before, value, after, rfl, hindex, hvalue, hbefore⟩ :=
        compile_eq_error_iff.mp hcompile
      have hskip : value.isSkip = false := by
        cases hskip : value.isSkip with
        | false => rfl
        | true =>
            rw [Value.fault?_of_isSkip hskip] at hvalue
            exact nomatch hvalue
      obtain ⟨before', after', rfl, hsame, hbefore'⟩ := exists_same_fault hreal hbefore hskip
      refine Or.inr ⟨before, value, after, before', after', rejection.fault, rfl, rfl, hskip, hsame,
        ?_, ?_⟩
      · rw [← hindex]
      · exact compile_eq_error_iff.mpr ⟨before', value, after', rfl, rfl, hvalue, hbefore'⟩

/-- The second list is at fault at its own position, behind other markers and another block. -/
theorem compile_of_markers_moved :
    Block.Refilled "f\x7b?d\x7bé\x7d\x7d ?#\x7b".toList "f\x7b\x7d ?#\x7b".toList ∧
    ((∃ sql, compile id "f\x7b?d\x7bé\x7d\x7d ?#\x7b".toList
          [.string "n".toList, .skip, .list [.skip]] = .ok sql ∧
        compile id "f\x7b\x7d ?#\x7b".toList
          [.skip, .string "n".toList, .skip, .list [.skip], .skip] = .ok sql) ∨
      ∃ before value after before' after' fault,
        [.string "n".toList, .skip, .list [.skip]] = before ++ value :: after ∧
        [.skip, .string "n".toList, .skip, .list [.skip], .skip] = before' ++ value :: after' ∧
        value.isSkip = false ∧ Value.withoutMarkers before = Value.withoutMarkers before' ∧
        compile id "f\x7b?d\x7bé\x7d\x7d ?#\x7b".toList
          [.string "n".toList, .skip, .list [.skip]] = .error ⟨before.length, fault⟩ ∧
        compile id "f\x7b\x7d ?#\x7b".toList
          [.skip, .string "n".toList, .skip, .list [.skip], .skip] =
            .error ⟨before'.length, fault⟩) := by
  have htemplates : Block.Refilled "f\x7b?d\x7bé\x7d\x7d ?#\x7b".toList "f\x7b\x7d ?#\x7b".toList :=
    ⟨⟨[("f".toList, "?d\x7bé\x7d".toList)], " ?#".toList, "\x7b".toList⟩,
      ⟨[("f".toList, [])], " ?#".toList, "\x7b".toList⟩, by decide, by decide, ⟨rfl, rfl, rfl⟩, rfl,
      rfl⟩
  exact ⟨htemplates, compile_of_markers htemplates (by simp) (by simp) rfl⟩

end SqlTemplate
