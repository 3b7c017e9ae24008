import SqlTemplate.Proofs.Rejections

/-!
# Sequence — compiling in steps is compiling at once

The SQL of one call can be the template of the next. Two calls in a row end as one call with both
parameter lists does, as long as there are no blocks left to resolve in between, and no string is a
literal in one way and an identifier in the other:

* `fillings_append` — the texts for both lists are those for the first and those for the second;
* `compile_append_of_ok` — so the second call goes on where the first one stops;
* `compile_append_of_error` and `compile_append_of_error_behind` — a rejection of the first list is
  one of both, and a rejection of the second list is one behind the whole first list;
* **`compile_append`** puts these together.
-/

namespace SqlTemplate

/-- Parameters that have the same roles beside others: several, or none that is a string. -/
def Value.Steady (params : List Value) : Prop :=
  1 < params.length ∨ ∀ s, .string s ∉ params

/-! ## The same texts -/

theorem filterMap_of_steady {params : List Value} {count : Nat} (h : Value.Steady params)
    (hcount : 1 < count) :
    params.filterMap (Param.classify? params.length) =
      params.filterMap (Param.classify? count) := by
  refine List.filterMap_congr ?_
  intro value hvalue
  rcases h with hseveral | hstring
  · exact Param.classify?_of_lt hseveral hcount value
  · refine Param.classify?_of_ne_string ?_ _ _
    rintro s rfl
    exact hstring s hvalue

/-- The texts for two lists are those for the first and then those for the second. -/
theorem fillings_append {escape : Escaper} {params others : List Value}
    {pairs pairs' : List (Placeholder × Text)} (hparams : params ≠ []) (hothers : others ≠ [])
    (hsteady : Value.Steady params) (hsteady' : Value.Steady others)
    (h : Compilation.fillings escape params = .ok pairs)
    (h' : Compilation.fillings escape others = .ok pairs') :
    Compilation.fillings escape (params ++ others) = .ok (pairs ++ pairs') := by
  have hcount : 1 < (params ++ others).length := by
    have := List.length_pos_of_ne_nil hparams
    have := List.length_pos_of_ne_nil hothers
    rw [List.length_append]
    omega
  rw [Compilation.fillings_eq] at h h' ⊢
  rw [filterMap_of_steady hsteady hcount] at h
  rw [filterMap_of_steady hsteady' hcount] at h'
  rw [List.filterMap_append]
  exact mapM_eq_ok_iff.mpr (List.rel_append (mapM_eq_ok_iff.mp h) (mapM_eq_ok_iff.mp h'))

theorem any_isSkip_of_no_marker {params : List Value} (h : .skip ∉ params) :
    params.any Value.isSkip = false := by
  rw [List.any_eq_false]
  intro value hvalue hskip
  cases value with
  | skip => exact h hvalue
  | _ => exact nomatch hskip

/-! ## The second call -/

/-- The second call goes on where the first one stops. -/
theorem compile_append_of_ok {escape : Escaper} {template sql done : Text}
    {params others : List Value} (hskip : .skip ∉ params) (hskip' : .skip ∉ others)
    (hsteady : Value.Steady params) (hsteady' : Value.Steady others)
    (hblocks : params = [] ∨ ¬('\x7b' ∈ sql ∧ '\x7d' ∈ sql))
    (h : compile escape template params = .ok sql) (h' : compile escape sql others = .ok done) :
    compile escape template (params ++ others) = .ok done := by
  by_cases hparams : params = []
  · subst hparams
    rw [← Except.ok.inj h] at h'
    exact h'
  · by_cases hothers : others = []
    · subst hothers
      rw [← Except.ok.inj h', List.append_nil]
      exact h
    · obtain ⟨pairs, hpairs, hsql⟩ := (compile_eq_ok_iff hparams).mp h
      obtain ⟨pairs', hpairs', hdone⟩ := (compile_eq_ok_iff hothers).mp h'
      refine (compile_eq_ok_iff (List.append_ne_nil_of_left_ne_nil hparams others)).mpr
        ⟨pairs ++ pairs', fillings_append hparams hothers hsteady hsteady' hpairs hpairs', ?_⟩
      -- the second call has nothing to unwrap
      have hresolve : Block.resolve (others.any Value.isSkip) sql = sql := by
        rw [any_isSkip_of_no_marker hskip']
        exact if_neg (hblocks.resolve_left hparams)
      rw [List.any_append, any_isSkip_of_no_marker hskip, any_isSkip_of_no_marker hskip',
        List.foldl_append, hdone, hresolve, hsql, any_isSkip_of_no_marker hskip]
      rfl

/-- A rejection of the first list is one of both. -/
theorem compile_append_of_error {escape : Escaper} {template : Text} {params : List Value}
    {rejection : Rejection} (h : compile escape template params = .error rejection)
    (others : List Value) : compile escape template (params ++ others) = .error rejection := by
  obtain ⟨before, value, after, rfl, hindex, hvalue, hbefore⟩ := compile_eq_error_iff.mp h
  exact compile_eq_error_iff.mpr
    ⟨before, value, after ++ others, List.append_assoc _ _ _, hindex, hvalue, hbefore⟩

/-- A rejection of the second list is one behind the first. -/
theorem compile_append_of_error_behind {escape : Escaper} {template other sql : Text}
    {params others : List Value} {rejection : Rejection}
    (h : compile escape template params = .ok sql)
    (h' : compile escape other others = .error rejection) :
    compile escape template (params ++ others) =
      .error ⟨params.length + rejection.index, rejection.fault⟩ := by
  obtain ⟨before, value, after, rfl, hindex, hvalue, hbefore⟩ := compile_eq_error_iff.mp h'
  refine compile_eq_error_iff.mpr ⟨params ++ before, value, after, ?_, ?_, hvalue, ?_⟩
  · rw [List.append_assoc]
  · rw [List.length_append, hindex]
  · intro value hvalue
    rcases List.mem_append.mp hvalue with hfirst | hsecond
    · exact compile_succeeds_iff.mp ⟨sql, h⟩ value hfirst
    · exact hbefore value hsecond

/-- **STEPS**: compiling with one parameter list and then with another ends as compiling with both
    at once, if there are no skip markers, each list is steady, and no blocks are left in
    between. -/
theorem compile_append {escape : Escaper} {template : Text} {params others : List Value}
    (hskip : .skip ∉ params) (hskip' : .skip ∉ others)
    (hsteady : Value.Steady params) (hsteady' : Value.Steady others) :
    (∀ rejection, compile escape template params = .error rejection →
      compile escape template (params ++ others) = .error rejection) ∧
    ∀ sql, compile escape template params = .ok sql →
      (params = [] ∨ ¬('\x7b' ∈ sql ∧ '\x7d' ∈ sql)) →
      (∃ done, compile escape sql others = .ok done ∧
        compile escape template (params ++ others) = .ok done) ∨
      ∃ rejection, compile escape sql others = .error rejection ∧
        compile escape template (params ++ others) =
          .error ⟨params.length + rejection.index, rejection.fault⟩ := by
  constructor
  · intro rejection h
    exact compile_append_of_error h others
  · intro sql h hblocks
    cases h' : compile escape sql others with
    | ok done =>
        exact Or.inl ⟨done, rfl,
          compile_append_of_ok hskip hskip' hsteady hsteady' hblocks h h'⟩
    | error rejection =>
        exact Or.inr ⟨rejection, rfl, compile_append_of_error_behind h h'⟩

/-- The first list leaves one brace; the boolean of the second goes into the string before it. -/
theorem compile_append_one_brace :
    compile Dialect.escapeMysql "?# \x7b?a\x7dé ?d".toList [.string "a\x7b".toList, .int 1] =
      .ok "\x60a\x7b\x60 ?aé 1".toList ∧
    ((∃ done, compile Dialect.escapeMysql "\x60a\x7b\x60 ?aé 1".toList
          [.list [.int 2, .string "?d".toList], .bool true] = .ok done ∧
        compile Dialect.escapeMysql "?# \x7b?a\x7dé ?d".toList [.string "a\x7b".toList, .int 1,
          .list [.int 2, .string "?d".toList], .bool true] = .ok done) ∨
      ∃ rejection, compile Dialect.escapeMysql "\x60a\x7b\x60 ?aé 1".toList
          [.list [.int 2, .string "?d".toList], .bool true] = .error rejection ∧
        compile Dialect.escapeMysql "?# \x7b?a\x7dé ?d".toList [.string "a\x7b".toList, .int 1,
          .list [.int 2, .string "?d".toList], .bool true] =
            .error ⟨2 + rejection.index, rejection.fault⟩) := by
  have hsql : compile Dialect.escapeMysql "?# \x7b?a\x7dé ?d".toList
      [.string "a\x7b".toList, .int 1] = .ok "\x60a\x7b\x60 ?aé 1".toList := by decide
  refine ⟨hsql, ?_⟩
  have hsteps := @compile_append Dialect.escapeMysql "?# \x7b?a\x7dé ?d".toList
    [.string "a\x7b".toList, .int 1] [.list [.int 2, .string "?d".toList], .bool true]
    (by simp) (by simp) (Or.inl (by decide)) (Or.inl (by decide))
  exact hsteps.2 _ hsql (Or.inr (by decide))

end SqlTemplate
