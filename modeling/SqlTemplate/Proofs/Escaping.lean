import SqlTemplate.Proofs.Filling

/-!
# Escaping — which strings of a call pass through its escaper

An escaper is any function on texts, and what it makes of a string can hold placeholders that later
parameters are put in. All the same it has a part in a call through few strings only: one that is
the only parameter, and those that stand directly in a list or in a map. Strings among several
parameters, the names of a map and the template are written as they are.

* `Value.Escaped` are those strings;
* **`Param.text_congr`** — a parameter is written alike by escapers that agree on them;
* `fill_congr` is the run, by induction on the parameters: texts that are written alike are put in
  the same places, whatever stands in them;
* `infix_text_of_escaped` — and each of those strings is written in its escaped form;
* **`compile_eq_of_escaped`** puts these together.
-/

namespace SqlTemplate

open Rendering

/-- The strings of a call that are escaped. -/
inductive Value.Escaped (params : List Value) (s : Text) : Prop where
  /-- A string that is the only parameter. -/
  | lone (h : params = [.string s])
  /-- A string directly in a list. -/
  | item (items : List Value) (hlist : .list items ∈ params) (h : .string s ∈ items)
  /-- A string under a name of a map. -/
  | field (fields : List (Text × Value)) (name : Text) (hmap : .map fields ∈ params)
      (h : (name, .string s) ∈ fields)

/-- A parameter of a call without a second one is the only one. -/
theorem eq_singleton_of_length {params : List Value} {value : Value} (h : value ∈ params)
    (hlength : ¬1 < params.length) : params = [value] := by
  match params, h, hlength with
  | [other], h, _ => rw [List.mem_singleton.mp h]
  | _ :: _ :: rest, _, hlength => exact absurd (Nat.succ_lt_succ (Nat.succ_pos rest.length)) hlength

/-! ## Escapers that agree -/

section

variable {params : List Value} {escape escape' : Escaper}

/-- A list of values or identifiers is written alike by escapers that agree on its strings. -/
theorem ofItems_text_congr {items : List Value}
    (h : ∀ s, .string s ∈ items → escape s = escape' s) :
    (Param.ofItems items).text escape = (Param.ofItems items).text escape' := by
  have hentries (quote : Text → Text) :
      items.mapM (entryText fun s => quote (escape s)) =
        items.mapM (entryText fun s => quote (escape' s)) := by
    refine mapM_congr fun item hitem => entryText_congr fun s hs => ?_
    rw [h s (hs ▸ hitem)]
  rcases Param.ofItems_eq items with heq | heq
  · rw [heq, Param.text, Param.text, hentries]
  · rw [heq, Param.text, Param.text, hentries]

/-- **PARAMETERS** are written alike by escapers that agree on the strings of the call that are
    escaped. -/
theorem Param.text_congr (h : ∀ s, Value.Escaped params s → escape s = escape' s) {value : Value}
    (hvalue : value ∈ params) {param : Param}
    (hrole : classify? params.length value = some param) :
    param.text escape = param.text escape' := by
  cases value with
  | string s =>
      by_cases hcount : 1 < params.length
      · rw [classify?, if_pos hcount] at hrole
        cases hrole
        rfl
      · rw [classify?, if_neg hcount] at hrole
        cases hrole
        have hs : escape s = escape' s := h s (.lone (eq_singleton_of_length hvalue hcount))
        rw [text, text, hs]
  | list items =>
      cases hrole
      exact ofItems_text_congr fun s hs => h s (.item items hvalue hs)
  | map fields =>
      cases hrole
      have hfields : fields.mapM (assignmentText fun s => Quote.single (escape s)) =
          fields.mapM (assignmentText fun s => Quote.single (escape' s)) := by
        refine mapM_congr fun field hfield => assignmentText_congr fun s hs => ?_
        rw [h s (.field fields field.1 hvalue (hs ▸ hfield))]
      rw [text, text, hfields]
  | skip => cases hrole
  | null | bool b | int n | float x =>
      cases hrole
      rfl

namespace Compilation

/-- **THE RUN**: arguments that are written alike fill a text alike, with the same events. -/
theorem fill_congr {arguments : List (Nat × Param)}
    (h : ∀ argument ∈ arguments, argument.2.text escape = argument.2.text escape') (sql : Text) :
    fill escape sql arguments = fill escape' sql arguments := by
  induction arguments generalizing sql with
  | nil => rfl
  | cons argument rest ih =>
      obtain ⟨index, param⟩ := argument
      have hrest := ih fun other hother => h other (.tail _ hother)
      have hparam : param.text escape = param.text escape' := h (index, param) List.mem_cons_self
      rw [fill, fill, ← hparam]
      cases param.text escape with
      | error fault => rfl
      | ok written =>
          -- the place is searched for in a text that does not depend on the escaper
          cases sql.splitFirst? param.placeholder.token with
          | none => exact congrArg (report _) (hrest sql)
          | some cut => exact congrArg (report _) (hrest _)

/-- A compilation is the same for escapers that agree on the strings that are escaped. -/
theorem ofTemplate_congr (h : ∀ s, Value.Escaped params s → escape s = escape' s)
    (template : Text) : ofTemplate escape template params = ofTemplate escape' template params := by
  have harguments : ∀ argument ∈ arguments params,
      argument.2.text escape = argument.2.text escape' := by
    intro argument hargument
    obtain ⟨⟨value, index⟩, hvalue, hrole⟩ := List.mem_filterMap.mp hargument
    obtain ⟨param, hparam, rfl⟩ := Option.map_eq_some_iff.mp hrole
    exact Param.text_congr h (List.fst_mem_of_mem_zipIdx hvalue) hparam
  simp only [ofTemplate, fill_congr harguments]

end Compilation

end

/-! ## Strings that are escaped -/

/-- A string stands in a text as the escaper made it safe, between quotes of either kind. -/
def Text.HoldsEscaped (written : Text) (escape : Escaper) (s : Text) : Prop :=
  Quote.single (escape s) <:+: written ∨ Quote.backtick (escape s) <:+: written

/-- A string of a list stands in the row of its entries as it was written. -/
theorem infix_of_string_mem (stringText : Text → Text) {items : List Value} {s written : Text}
    (hs : .string s ∈ items)
    (hwritten : commaSeparated <$> items.mapM (entryText stringText) = .ok written) :
    stringText s <:+: written := by
  obtain ⟨entries, hentries, rfl⟩ := commaSeparated_eq_ok hwritten
  obtain ⟨entry, hentry, htext⟩ := exists_result_of_mapM_eq_ok hentries hs
  rw [← Except.ok.inj htext] at hentry
  exact infix_commaSeparated hentry

/-- Each of the strings that are escaped stands in its escaped form in the text of its parameter. -/
theorem infix_text_of_escaped (escape : Escaper) {params : List Value} {s : Text}
    (h : Value.Escaped params s) :
    ∃ value ∈ params, ∃ param, Param.classify? params.length value = some param ∧
      ∀ written, param.text escape = .ok written → written.HoldsEscaped escape s := by
  cases h with
  | lone h =>
      subst h
      refine ⟨.string s, List.mem_singleton_self _, .literal s, rfl, fun written hwritten => ?_⟩
      rw [← Except.ok.inj hwritten]
      exact Or.inl (List.infix_refl _)
  | item items hlist hs =>
      refine ⟨.list items, hlist, Param.ofItems items, rfl, fun written hwritten => ?_⟩
      rcases Param.ofItems_eq items with heq | heq
      · rw [heq] at hwritten
        exact Or.inl (infix_of_string_mem (fun s => Quote.single (escape s)) hs hwritten)
      · rw [heq] at hwritten
        exact Or.inr (infix_of_string_mem (fun s => Quote.backtick (escape s)) hs hwritten)
  | field fields name hmap hs =>
      refine ⟨.map fields, hmap, .assignments fields, rfl, fun written hwritten => ?_⟩
      obtain ⟨entries, hentries, rfl⟩ := commaSeparated_eq_ok hwritten
      obtain ⟨entry, hentry, htext⟩ := exists_result_of_mapM_eq_ok hentries hs
      rw [← Except.ok.inj htext] at hentry
      exact Or.inl ((List.suffix_append _ _).isInfix.trans (infix_commaSeparated hentry))

/-- **THE ESCAPER REACHES** a lone string and the strings directly in lists and maps: escapers that
    agree on those give the same result, and in a call that succeeds each of them is written in its
    escaped form. -/
theorem compile_eq_of_escaped (template : Text) (params : List Value) :
    (∀ escape escape' : Escaper, (∀ s, Value.Escaped params s → escape s = escape' s) →
      compile escape template params = compile escape' template params) ∧
    ∀ (escape : Escaper) (sql : Text), compile escape template params = .ok sql →
      ∀ s, Value.Escaped params s →
        ∃ pairs, Compilation.fillings escape params = .ok pairs ∧
          sql = pairs.foldl Compilation.put
            (Block.resolve (params.any Value.isSkip) template) ∧
          ∃ pair ∈ pairs, pair.2.HoldsEscaped escape s := by
  constructor
  · intro escape escape' h
    exact congrArg Compilation.result (Compilation.ofTemplate_congr h template)
  · intro escape sql hsql s hs
    obtain ⟨value, hvalue, param, hrole, hholds⟩ := infix_text_of_escaped escape hs
    obtain ⟨pairs, hpairs, hfilled⟩ :=
      (compile_eq_ok_iff (List.ne_nil_of_mem hvalue)).mp hsql
    refine ⟨pairs, hpairs, hfilled, ?_⟩
    rw [Compilation.fillings_eq] at hpairs
    obtain ⟨pair, hpair, hfilling⟩ :=
      exists_result_of_mapM_eq_ok hpairs (List.mem_filterMap.mpr ⟨value, hvalue, hrole⟩)
    exact ⟨pair, hpair, hholds _ (Compilation.filling_eq_ok_iff.mp hfilling).1⟩

/-- The second escaper makes a placeholder of every other string, be it an identifier or a name. -/
theorem compile_eq_of_escaped_elsewhere :
    compile Dialect.escapeMysql "?# ?a ?a ?#".toList
        [.string "k".toList, .list [.int 1, .string "v'".toList],
          .map [("c".toList, .string "w".toList)]] =
      compile
        (fun s =>
          if s = "v'".toList ∨ s = "w".toList then Dialect.escapeMysql s else "?#".toList)
        "?# ?a ?a ?#".toList
        [.string "k".toList, .list [.int 1, .string "v'".toList],
          .map [("c".toList, .string "w".toList)]] ∧
    ∃ pairs, Compilation.fillings Dialect.escapeMysql
        [.string "k".toList, .list [.int 1, .string "v'".toList],
          .map [("c".toList, .string "w".toList)]] = .ok pairs ∧
      "\x60k\x60 1, 'v\\'' \x60c\x60 = 'w' ?#".toList = pairs.foldl Compilation.put
        (Block.resolve false "?# ?a ?a ?#".toList) ∧
      ∃ pair ∈ pairs, pair.2.HoldsEscaped Dialect.escapeMysql "v'".toList := by
  refine ⟨(compile_eq_of_escaped _ _).1 _ _ ?_, ?_⟩
  · intro s hs
    refine (if_pos ?_).symm
    cases hs with
    | lone h => exact nomatch List.tail_eq_of_cons_eq h
    | item items hlist h =>
        simp only [List.mem_cons, reduceCtorEq, Value.list.injEq, List.not_mem_nil, or_false,
          false_or] at hlist
        subst hlist
        simpa using Or.inl h
    | field fields name hmap h =>
        simp only [List.mem_cons, reduceCtorEq, Value.map.injEq, List.not_mem_nil, or_false,
          false_or] at hmap
        subst hmap
        simp only [List.mem_singleton, Prod.mk.injEq, Value.string.injEq] at h
        exact Or.inr h.2
  · exact (compile_eq_of_escaped _ _).2 _ _ (by decide) _
      (.item [.int 1, .string "v'".toList] (by simp) (by simp))

end SqlTemplate
