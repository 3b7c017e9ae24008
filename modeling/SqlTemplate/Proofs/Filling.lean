import SqlTemplate.Compilation
import SqlTemplate.Proofs.FirstOccurrence
import SqlTemplate.Proofs.Written

/-!
# Filling — a compilation as a fold over written parameters

A compilation formats a parameter, searches for its placeholder and rewrites the text, one parameter
after the other. For a compilation that succeeds the three can be told apart: first all parameters
are written, then the texts are put in place.

* `Compilation.fillings` are the placeholders of the parameters with the texts written for them;
* `Compilation.put` replaces the first occurrence of one placeholder;
* **`compile_eq_ok_iff`** — a compilation succeeds exactly if all parameters can be written, and its
  SQL is the resolved template with the texts put in place in order;
* `compile_of_writtenAs` — so a lone parameter takes the first place for it.
-/

namespace SqlTemplate.Compilation

/-! ## Parameters with their roles -/

/-- The parameters that have a role among `count`, with their positions from `start` on. -/
def roles (count start : Nat) (params : List Value) : List (Nat × Param) :=
  (params.zipIdx start).filterMap fun (value, index) =>
    (Param.classify? count value).map fun param => (index, param)

/-- The arguments of a call are its parameters with their roles. -/
theorem arguments_eq_roles (params : List Value) :
    arguments params = roles params.length 0 params := rfl

/-- A skip marker in front only counts as a position. -/
theorem roles_cons_of_none {count : Nat} {value : Value} (h : Param.classify? count value = none)
    (start : Nat) (params : List Value) :
    roles count start (value :: params) = roles count (start + 1) params :=
  List.filterMap_cons_none (congrArg (Option.map fun param => (start, param)) h)

/-- A parameter in front comes first, with its role. -/
theorem roles_cons_of_some {count : Nat} {value : Value} {param : Param}
    (h : Param.classify? count value = some param) (start : Nat) (params : List Value) :
    roles count start (value :: params) = (start, param) :: roles count (start + 1) params :=
  List.filterMap_cons_some (congrArg (Option.map fun param => (start, param)) h)

/-- The roles of parameters do not depend on where they stand. -/
theorem map_snd_roles (count start : Nat) (params : List Value) :
    (roles count start params).map Prod.snd = params.filterMap (Param.classify? count) := by
  induction params generalizing start with
  | nil => rfl
  | cons value params ih =>
      cases hrole : Param.classify? count value with
      | none => rw [roles_cons_of_none hrole, List.filterMap_cons_none hrole, ih]
      | some param =>
          rw [roles_cons_of_some hrole, List.filterMap_cons_some hrole, List.map_cons, ih]

/-! ## Filling in two phases -/

/-- The placeholder of a parameter with the text written for it. -/
def filling (escape : Escaper) (param : Param) : Except Fault (Placeholder × Text) :=
  (param.text escape).map fun written => (param.placeholder, written)

/-- The placeholders of the parameters with the texts written for them, in order. -/
def fillings (escape : Escaper) (params : List Value) : Except Fault (List (Placeholder × Text)) :=
  (arguments params).mapM fun argument => filling escape argument.2

/-- What is written for the parameters depends on their roles alone. -/
theorem fillings_eq (escape : Escaper) (params : List Value) :
    fillings escape params =
      (params.filterMap (Param.classify? params.length)).mapM (filling escape) := by
  rw [← map_snd_roles params.length 0, ← arguments_eq_roles, List.mapM_map]
  rfl

/-- A text with a placeholder's first occurrence replaced, or as it is if there is none. -/
def put (sql : Text) (filling : Placeholder × Text) : Text :=
  match sql.splitFirst? filling.1.token with
  | some (before, after) => before ++ filling.2 ++ after
  | none => sql

/-- A text put in the place of the first occurrence. -/
theorem put_of_found {sql before after : Text} {filling : Placeholder × Text}
    (h : sql.splitFirst? filling.1.token = some (before, after)) :
    put sql filling = before ++ (filling.2 ++ after) := by
  rw [put, h, ← List.append_assoc]

/-- A text without a place is left out. -/
theorem put_of_missing {sql : Text} {filling : Placeholder × Text}
    (h : sql.splitFirst? filling.1.token = none) : put sql filling = sql := by
  rw [put, h]

/-- A parameter is written exactly if it has a text. -/
theorem filling_eq_ok_iff {escape : Escaper} {param : Param} {pair : Placeholder × Text} :
    filling escape param = .ok pair ↔
      param.text escape = .ok pair.2 ∧ pair.1 = param.placeholder := by
  cases htext : param.text escape with
  | error fault =>
      rw [filling, htext]
      exact ⟨(fun h => nomatch h), (fun h => nomatch h.1)⟩
  | ok written =>
      rw [filling, htext]
      constructor
      · intro h
        rw [← Except.ok.inj h]
        exact ⟨rfl, rfl⟩
      · rintro ⟨h, hplaceholder⟩
        rw [Except.ok.inj h, ← hplaceholder]
        rfl

/-- Each text put in place is written for one of the parameters. -/
theorem exists_value_of_fillings {escape : Escaper} {params : List Value}
    {pairs : List (Placeholder × Text)} (h : fillings escape params = .ok pairs)
    {pair : Placeholder × Text} (hpair : pair ∈ pairs) :
    ∃ value ∈ params, ∃ param, Param.classify? params.length value = some param ∧
      param.text escape = .ok pair.2 ∧ pair.1 = param.placeholder := by
  rw [fillings_eq] at h
  obtain ⟨param, hparam, hfilling⟩ := exists_item_of_mapM_eq_ok h hpair
  obtain ⟨value, hvalue, hrole⟩ := List.mem_filterMap.mp hparam
  exact ⟨value, hvalue, param, hrole, filling_eq_ok_iff.mp hfilling⟩

theorem filling_eq_error_iff {escape : Escaper} {param : Param} {fault : Fault} :
    filling escape param = .error fault ↔ param.text escape = .error fault := by
  rw [filling]
  cases param.text escape with
  | error other =>
      show Except.error other = .error fault ↔ Except.error other = .error fault
      rw [Except.error.injEq, Except.error.injEq]
  | ok written => exact iff_of_false nofun nofun

/-! ## The steps of a filling -/

/-- A parameter that cannot be written ends the filling, with nothing said of it. -/
theorem fill_cons_error {escape : Escaper} {param : Param} {fault : Fault}
    (h : filling escape param = .error fault) (sql : Text) (index : Nat)
    (rest : List (Nat × Param)) :
    fill escape sql ((index, param) :: rest) = ⟨[], .error ⟨index, fault⟩⟩ := by
  rw [fill, filling_eq_error_iff.mp h]

/-- A parameter that is written replaces its placeholder, and the rest is filled. -/
theorem fill_cons_found {escape : Escaper} {param : Param} {written sql before after : Text}
    (htext : param.text escape = .ok written)
    (hsplit : sql.splitFirst? param.placeholder.token = some (before, after)) (index : Nat)
    (rest : List (Nat × Param)) :
    fill escape sql ((index, param) :: rest) =
      report (.substituting index param.placeholder before.byteLength)
        (fill escape (before ++ written ++ after) rest) := by
  rw [fill, htext, hsplit]

/-- A parameter that is written and finds no placeholder is left out. -/
theorem fill_cons_missing {escape : Escaper} {param : Param} {written sql : Text}
    (htext : param.text escape = .ok written)
    (hsplit : sql.splitFirst? param.placeholder.token = none) (index : Nat)
    (rest : List (Nat × Param)) :
    fill escape sql ((index, param) :: rest) =
      report (.noPlaceholder index param.placeholder) (fill escape sql rest) := by
  rw [fill, htext, hsplit]

/-- Either way the text is put in place, and the rest is filled. -/
theorem fill_cons_result {escape : Escaper} {param : Param} {pair : Placeholder × Text}
    (h : filling escape param = .ok pair) (sql : Text) (index : Nat) (rest : List (Nat × Param)) :
    (fill escape sql ((index, param) :: rest)).result =
      (fill escape (put sql pair) rest).result := by
  obtain ⟨htext, hplaceholder⟩ := filling_eq_ok_iff.mp h
  rw [put, hplaceholder]
  cases hsplit : sql.splitFirst? param.placeholder.token with
  | none => rw [fill_cons_missing htext hsplit, report]
  | some found => rw [fill_cons_found htext hsplit, report]

/-- The whole filling: it succeeds exactly if all parameters can be written, and then puts their
    texts in place in order. -/
theorem fill_result_eq_ok_iff {escape : Escaper} {sql done : Text}
    {arguments : List (Nat × Param)} :
    (fill escape sql arguments).result = .ok done ↔
      ∃ pairs, arguments.mapM (fun argument => filling escape argument.2) = .ok pairs ∧
        done = pairs.foldl put sql := by
  induction arguments generalizing sql with
  | nil =>
      constructor
      · intro h
        exact ⟨[], rfl, (Except.ok.inj h).symm⟩
      · rintro ⟨pairs, hpairs, rfl⟩
        rw [← Except.ok.inj hpairs]
        rfl
  | cons argument rest ih =>
      obtain ⟨index, param⟩ := argument
      cases hparam : filling escape param with
      | error fault =>
          rw [fill_cons_error hparam]
          refine ⟨(fun h => nomatch h), ?_⟩
          rintro ⟨pairs, hpairs, -⟩
          rw [List.mapM_cons, hparam] at hpairs
          exact nomatch hpairs
      | ok pair =>
          rw [fill_cons_result hparam, ih]
          constructor
          · rintro ⟨pairs, hpairs, hdone⟩
            refine ⟨pair :: pairs, mapM_eq_ok_iff.mpr ?_, hdone⟩
            exact .cons hparam (mapM_eq_ok_iff.mp hpairs)
          · rintro ⟨pairs, hpairs, hdone⟩
            obtain ⟨first, others, hfirst, hothers, rfl⟩ :=
              List.forall₂_cons_left_iff.mp (mapM_eq_ok_iff.mp hpairs)
            rw [hparam] at hfirst
            rw [← Except.ok.inj hfirst] at hdone
            exact ⟨others, mapM_eq_ok_iff.mpr hothers, hdone⟩

end Compilation

/-- A compilation with parameters ends as the filling of its resolved template does. -/
theorem compile_eq_fill {params : List Value} (hparams : params ≠ []) (escape : Escaper)
    (template : Text) :
    compile escape template params =
      (Compilation.fill escape (Block.resolve (params.any Value.isSkip) template)
        (Compilation.arguments params)).result := by
  have hempty : params.isEmpty = false := by
    cases params with
    | nil => exact absurd rfl hparams
    | cons value rest => rfl
  rw [compile, Compilation.ofTemplate, hempty]
  cases params.any Value.isSkip <;> rfl

/-- **COMPILATIONS THAT SUCCEED**: all parameters can be written, and the SQL is the resolved
    template with their texts put in place in order. -/
theorem compile_eq_ok_iff {escape : Escaper} {template sql : Text} {params : List Value}
    (hparams : params ≠ []) :
    compile escape template params = .ok sql ↔
      ∃ pairs, Compilation.fillings escape params = .ok pairs ∧
        sql = pairs.foldl Compilation.put
          (Block.resolve (params.any Value.isSkip) template) := by
  rw [compile_eq_fill hparams]
  exact Compilation.fill_result_eq_ok_iff

/-! ## One parameter -/

/-- A value among `count` parameters is written as a text for a placeholder. -/
def Value.WrittenAs (escape : Escaper) (count : Nat) (value : Value) (placeholder : Placeholder)
    (written : Text) : Prop :=
  ∃ param, Param.classify? count value = some param ∧
    Compilation.filling escape param = .ok (placeholder, written)

/-- A value that has a role is written as its parameter is. -/
theorem Value.writtenAs_of_text {escape : Escaper} {count : Nat} {value : Value} {param : Param}
    {written : Text} (hrole : Param.classify? count value = some param)
    (htext : param.text escape = .ok written) :
    value.WrittenAs escape count param.placeholder written :=
  ⟨param, hrole, Compilation.filling_eq_ok_iff.mpr ⟨htext, rfl⟩⟩

/-- A lone parameter stands where the unwrapped template had the first place for it. -/
theorem compile_of_writtenAs {escape : Escaper} {value : Value} {placeholder : Placeholder}
    {written template before after : Text} (hwritten : value.WrittenAs escape 1 placeholder written)
    (hcut : (Block.unwrap template).splitFirst? placeholder.token = some (before, after)) :
    compile escape template [value] = .ok (before ++ (written ++ after)) := by
  obtain ⟨param, hrole, hfilling⟩ := hwritten
  refine (compile_eq_ok_iff (List.cons_ne_nil _ _)).mpr ⟨[(placeholder, written)], ?_, ?_⟩
  · rw [Compilation.fillings_eq]
    show (([value].filterMap (Param.classify? 1)).mapM (Compilation.filling escape)) = _
    rw [List.filterMap_cons_some hrole]
    exact mapM_eq_ok_iff.mpr (.cons hfilling .nil)
  · have hskip : value.isSkip = false := by
      cases value with
      | skip => exact nomatch hrole
      | _ => rfl
    have hput : Compilation.put (Block.unwrap template) (placeholder, written) =
        before ++ (written ++ after) := Compilation.put_of_found hcut
    rw [List.any_cons, hskip, ← hput]
    rfl

end SqlTemplate
