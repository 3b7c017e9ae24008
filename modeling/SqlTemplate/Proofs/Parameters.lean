import SqlTemplate.ParamList
import SqlTemplate.Proofs.Conversion
import SqlTemplate.Proofs.Documents

/-!
# Parameters — a parameter list mirrors the array that it is read from

* `ParamList.Stands` relates an item of the array to its parameter;
* `ParamList.exists_param` — every item has one;
* `parse_succeeds_iff` — a text is a parameter list exactly if it is a JSON array;
* `parse_congr` — skip tokens that are no item of the array make no difference;
* **`parse_mirrors`** puts these together with what the values hold, to every depth.
-/

namespace SqlTemplate.ParamList

/-- A parameter stands for an item of the array: the skip marker for the skip token and for nothing
    else, and for every other item its value, which mirrors it. -/
structure Stands (skipToken : Text) (item : Json) (param : Value) : Prop where
  marker : param = .skip ↔ item = .string skipToken
  value : item ≠ .string skipToken → Value.ofJson item = .ok param ∧ Value.Mirrors item param

/-! ## One item -/

theorem param_skipToken (skipToken : Text) : param skipToken (.string skipToken) = .ok .skip :=
  congrArg Except.ok (if_pos rfl)

theorem param_of_ne {skipToken : Text} {item : Json} (h : item ≠ .string skipToken) :
    param skipToken item = Value.ofJson item := by
  cases item with
  | string s =>
      have hs : s ≠ skipToken := fun heq => h (congrArg Json.string heq)
      rw [param, if_neg hs, Value.ofJson]
  | _ => rfl

/-- An item has a parameter that stands for it. -/
theorem exists_param (skipToken : Text) {item : Json} (hitem : item.Distinct) :
    ∃ value, param skipToken item = .ok value ∧ Stands skipToken item value := by
  by_cases h : item = .string skipToken
  · subst h
    exact ⟨.skip, param_skipToken skipToken, ⟨by simp, fun hne => absurd rfl hne⟩⟩
  · obtain ⟨value, hvalue, hmirrors⟩ := Value.exists_ofJson hitem
    refine ⟨value, (param_of_ne h).trans hvalue, ⟨?_, fun _ => ⟨hvalue, hmirrors⟩⟩⟩
    exact iff_of_false hmirrors.ne_skip h

namespace Stands

variable {skipToken : Text} {item : Json} {value : Value}

/-- A parameter is the skip marker or mirrors its item. -/
theorem skip_or_mirrors (h : Stands skipToken item value) :
    value = .skip ∨ Value.Mirrors item value := by
  by_cases hitem : item = .string skipToken
  · exact Or.inl (h.marker.mpr hitem)
  · exact Or.inr (h.value hitem).2

/-- No skip marker is below the top level. -/
theorem not_within_skip (h : Stands skipToken item value) {entry : Value}
    (hentry : entry ∈ value.entries) : ¬ Value.Within .skip entry := by
  rcases h.skip_or_mirrors with rfl | hmirrors
  · exact nomatch hentry
  · exact fun hskip => hmirrors.not_within_skip (.entry hskip hentry)

end Stands

/-! ## The list -/

variable {complaint : Text → Text}

theorem parse_of_array {skipToken text : Text} {items : List Json}
    (h : Json.parse? text = some (.array items)) :
    parse complaint skipToken text = (items.mapM (param skipToken)).mapError .formless := by
  rw [parse, h]
  rfl

/-- An array is read item by item. -/
theorem exists_parse (complaint : Text → Text) (skipToken : Text) {text : Text}
    {items : List Json} (h : Json.parse? text = some (.array items)) :
    ∃ params, parse complaint skipToken text = .ok params ∧
      List.Forall₂ (Stands skipToken) items params := by
  have hdistinct : (Json.array items).Distinct := Json.distinct_of_parse? h
  have hitem : ∀ item ∈ items,
      ∃ value, param skipToken item = .ok value ∧ Stands skipToken item value :=
    fun item hitem => exists_param skipToken (hdistinct.entry hitem)
  obtain ⟨params, hparams, hstands⟩ := exists_mapM_eq_ok hitem
  refine ⟨params, ?_, hstands⟩
  rw [parse_of_array h, hparams]
  rfl

theorem stands_of_parse {skipToken text : Text} {items : List Json} {params : List Value}
    (h : Json.parse? text = some (.array items))
    (hparams : parse complaint skipToken text = .ok params) :
    List.Forall₂ (Stands skipToken) items params := by
  obtain ⟨params', hparams', hstands⟩ := exists_parse complaint skipToken h
  obtain rfl : params' = params := Except.ok.inj (hparams'.symm.trans hparams)
  exact hstands

/-- A text is a parameter list exactly if it is a JSON array. -/
theorem parse_succeeds_iff {skipToken text : Text} :
    (∃ params, parse complaint skipToken text = .ok params) ↔
      ∃ items, Json.parse? text = some (.array items) := by
  constructor
  · rintro ⟨params, hparams⟩
    unfold parse at hparams
    split at hparams
    · exact nomatch hparams
    next document hdocument =>
      cases document with
      | array items => exact ⟨items, hdocument⟩
      | _ => exact nomatch hparams
  · rintro ⟨items, hitems⟩
    obtain ⟨params, hparams, -⟩ := exists_parse complaint skipToken hitems
    exact ⟨params, hparams⟩

/-- Without the skip token among them, items are converted as they are. -/
theorem mapM_param {skipToken : Text} {items : List Json} (h : .string skipToken ∉ items) :
    items.mapM (param skipToken) = items.mapM Value.ofJson := by
  induction items with
  | nil => rfl
  | cons item items ih =>
      obtain ⟨hitem, hitems⟩ := not_or.mp (mt List.mem_cons.mpr h)
      rw [List.mapM_cons, List.mapM_cons, param_of_ne (Ne.symm hitem), ih hitems]

/-- Skip tokens that are no item make no difference. -/
theorem parse_congr {skipToken other text : Text}
    (h : ∀ items, Json.parse? text = some (.array items) →
      .string skipToken ∉ items ∧ .string other ∉ items) :
    parse complaint skipToken text = parse complaint other text := by
  unfold parse
  split
  · rfl
  next document hdocument =>
    cases document with
    | array items =>
        obtain ⟨htoken, hother⟩ := h items hdocument
        show (items.mapM (param skipToken)).mapError _ = (items.mapM (param other)).mapError _
        rw [mapM_param htoken, mapM_param hother]
    | _ => rfl

/-- **MIRROR**: a text is a parameter list exactly if it is a JSON array. Then each item of the
    array has one parameter in its place, the skip marker exactly if it is the skip token and
    otherwise the value that mirrors it, and no skip marker is below the top level. Skip tokens that
    are no item give the same parameters, and documents without integers beyond 64 bits with sign
    have values of their own. -/
theorem parse_mirrors (complaint : Text → Text) (skipToken text : Text) :
    ((∃ params, parse complaint skipToken text = .ok params) ↔
      ∃ items, Json.parse? text = some (.array items)) ∧
    (∀ items params, Json.parse? text = some (.array items) →
      parse complaint skipToken text = .ok params →
        List.Forall₂ (Stands skipToken) items params ∧
        ∀ param ∈ params, ∀ entry ∈ param.entries, ¬ Value.Within .skip entry) ∧
    (∀ other, (∀ items, Json.parse? text = some (.array items) →
        .string skipToken ∉ items ∧ .string other ∉ items) →
      parse complaint skipToken text = parse complaint other text) ∧
    ∀ a b : Json, a.Distinct → b.Distinct → a.InRange → b.InRange →
      Value.ofJson a = Value.ofJson b → a = b := by
  refine ⟨parse_succeeds_iff, ?_, fun other => parse_congr, ?_⟩
  · intro items params hitems hparams
    have hstands : List.Forall₂ (Stands skipToken) items params := stands_of_parse hitems hparams
    refine ⟨hstands, ?_⟩
    intro param hparam entry hentry
    obtain ⟨item, -, hitem⟩ := exists_of_mem_forall₂ hstands hparam
    exact hitem.not_within_skip hentry
  · exact fun a b => Value.ofJson_injective

/-- The skip token inside an array is a string. -/
example :
    parse id "?".toList "[\"?\", [\"?\"], -1]".toList =
      .ok [.skip, .list [.string "?".toList], .int (-1)] := by cbv

end SqlTemplate.ParamList
