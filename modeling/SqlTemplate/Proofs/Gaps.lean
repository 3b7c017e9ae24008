import SqlTemplate.Proofs.Filling

/-!
# Gaps — the text of a template survives, whatever the values hold

A template is cut at its question marks, each with the letter behind it that makes a typed
placeholder of it. What stands between the cuts are its gaps. Values may hold question marks and
whole placeholders, and later parameters may go there: still no parameter reaches into a gap.

The invariant of the run is that the text reached so far is the first gap and then a row of pairs,
each an inserted text with the gap behind it, where every pair is a `Seam`: at no place between an
inserted text and a gap, and at none between two inserted texts, does a placeholder begin on one
side and end on the other.

* `exists_seam` — so every occurrence of a placeholder lies in one inserted text;
* `Seam.replace` — a parameter put there leaves a seam, as no written text begins with a letter of
  placeholders (`Param.text_neutral`) or ends with a question mark (`Param.text_ended`);
* `put_woven` is the step, `foldl_put_woven` the run, and **`compile_keeps_gaps`** the whole
  compilation.
-/

namespace SqlTemplate

namespace Text

/-! ## Cutting a template -/

/-- A text behind a question mark without the letter that makes a typed placeholder of the two. -/
def behindLetter : Text → Text
  | [] => []
  | c :: text => if c ∈ Placeholder.letters then text else c :: text

/-- The gaps of a text: what stands before its first placeholder, and what stands behind each. -/
def gaps (text : Text) : Text × List Text :=
  ((parts '?' text).headD [], (parts '?' text).tail.map behindLetter)

/-- Texts put between gaps: each in front of the gap behind it. -/
def woven (first : Text) (pairs : List (Text × Text)) : Text :=
  first ++ pairs.flatMap fun (inserted, gap) => inserted ++ gap

/-- A text is its first part and the others with a mark in front of each, and no part has one. -/
theorem eq_parts (mark : Char) (text : Text) :
    ∃ first others, parts mark text = first :: others ∧
      text = first ++ others.flatMap (mark :: ·) ∧ mark ∉ first ∧ ∀ part ∈ others, mark ∉ part := by
  induction text with
  | nil => exact ⟨[], [], rfl, rfl, nofun, nofun⟩
  | cons c text ih =>
      obtain ⟨first, others, hparts, htext, hfirst, hothers⟩ := ih
      by_cases hc : c = mark
      · refine ⟨[], first :: others, ?_, ?_, nofun, ?_⟩
        · rw [parts, if_pos hc, hparts]
        · rw [htext, hc]
          rfl
        · intro part hpart
          rcases List.mem_cons.mp hpart with rfl | hpart
          · exact hfirst
          · exact hothers part hpart
      · refine ⟨c :: first, others, ?_, ?_, ?_, hothers⟩
        · rw [parts, if_neg hc, hparts]
        · rw [htext]
          rfl
        · intro hmem
          rcases List.mem_cons.mp hmem with rfl | hmem
          · exact hc rfl
          · exact hfirst hmem

end Text

/-! ## Seams -/

/-- An inserted text and the gap behind it, with no placeholder across either end of the text. -/
structure Seam (pair : Text × Text) : Prop where
  ne_nil : pair.1 ≠ []
  neutral : pair.1.Neutral
  unmarked : '?' ∉ pair.2
  ended : pair.1.Ended ∨ pair.2.Neutral

namespace Seam

/-- The placeholder and the gap that a part behind a question mark begins with are a seam. -/
theorem of_part {part : Text} (h : '?' ∉ part) :
    ∃ token, Seam (token, part.behindLetter) ∧ token ++ part.behindLetter = '?' :: part := by
  cases part with
  | nil => exact ⟨['?'], ⟨nofun, Text.neutral_cons (by decide) _, h, Or.inr fun _ _ => nofun⟩, rfl⟩
  | cons c part =>
      by_cases hc : c ∈ Placeholder.letters
      · have hgap : Text.behindLetter (c :: part) = part := if_pos hc
        have hne : c ≠ '?' := fun heq => h (heq ▸ List.mem_cons_self)
        rw [hgap]
        refine ⟨['?', c], ⟨nofun, Text.neutral_cons (by decide) _, ?_, Or.inl ?_⟩, rfl⟩
        · exact fun hmem => h (List.mem_cons_of_mem c hmem)
        · exact Text.ended_concat hne ['?']
      · have hgap : Text.behindLetter (c :: part) = c :: part := if_neg hc
        rw [hgap]
        refine ⟨['?'], ⟨nofun, Text.neutral_cons (by decide) _, h, Or.inr ?_⟩, rfl⟩
        exact Text.neutral_cons hc part

/-- A written text in the place of a placeholder in an inserted text leaves a seam. -/
theorem replace {front token back gap written : Text} (h : Seam (front ++ (token ++ back), gap))
    (hne : written ≠ []) (hneutral : written.Neutral) (hended : written.Ended) :
    Seam (front ++ (written ++ back), gap) := by
  refine ⟨by simp [hne], ?_, h.unmarked, ?_⟩
  · -- the first character is that of the front, or of the written text
    cases front with
    | nil =>
        cases written with
        | nil => exact absurd rfl hne
        | cons c written => exact hneutral
    | cons c front => exact h.neutral
  · -- the last character is that of the back, or of the written text
    by_cases hback : back = []
    · refine Or.inl ?_
      rw [hback, List.append_nil]
      exact hended.append hne
    · refine h.ended.imp_left fun hinserted => ?_
      intro heq
      refine hinserted ?_
      rw [← List.append_assoc, List.getLast?_append_of_ne_nil _ hback] at heq ⊢
      exact heq

end Seam

/-- A row of seams is neutral: it is empty or begins with an inserted text. -/
theorem neutral_of_seams {pairs : List (Text × Text)} (h : ∀ pair ∈ pairs, Seam pair) :
    Text.Neutral (pairs.flatMap fun (inserted, gap) => inserted ++ gap) := by
  cases pairs with
  | nil => exact fun _ _ => nofun
  | cons pair pairs =>
      obtain ⟨inserted, gap⟩ := pair
      have hpair : Seam (inserted, gap) := h _ List.mem_cons_self
      cases inserted with
      | nil => exact absurd rfl hpair.ne_nil
      | cons c inserted => exact hpair.neutral

/-- A placeholder that begins in an inserted text ends in it. -/
theorem Seam.token_inside {inserted gap more : Text} (h : Seam (inserted, gap))
    (hmore : more.Neutral) {placeholder : Placeholder} {front mid after : Text}
    (hinserted : inserted = front ++ '?' :: mid)
    (hafter : '?' :: (mid ++ (gap ++ more)) = placeholder.token ++ after) :
    ∃ back, '?' :: mid = placeholder.token ++ back ∧ after = back ++ (gap ++ more) := by
  rcases placeholder.token_eq with htoken | ⟨c, hc, htoken⟩
  · rw [htoken] at hafter ⊢
    exact ⟨mid, rfl, (List.cons.inj hafter).2.symm⟩
  · rw [htoken] at hafter ⊢
    have hrest : mid ++ (gap ++ more) = c :: after := (List.cons.inj hafter).2
    cases mid with
    | cons d mid =>
        obtain ⟨rfl, hmid⟩ := List.cons.inj hrest
        exact ⟨mid, rfl, hmid.symm⟩
    | nil =>
        -- the letter would be the first of what stands behind the inserted text
        exfalso
        have hgap : gap.Neutral := by
          rcases h.ended with hended | hgap
          · exact absurd (by rw [hinserted, List.getLast?_concat]) hended
          · exact hgap
        cases gap with
        | cons d gap =>
            have hd : d = c := (List.cons.inj hrest).1
            exact hgap c hc (by rw [← hd]; rfl)
        | nil =>
            have hmore' : more = c :: after := hrest
            exact hmore c hc (by rw [hmore']; rfl)

/-- **NO PLACEHOLDER IN A GAP**: an occurrence in a woven text lies in one of the inserted texts. -/
theorem exists_seam {first : Text} {pairs : List (Text × Text)} (hfirst : '?' ∉ first)
    (hpairs : ∀ pair ∈ pairs, Seam pair) {placeholder : Placeholder} {before after : Text}
    (h : Text.woven first pairs = before ++ (placeholder.token ++ after)) :
    ∃ done inserted gap rest front back, pairs = done ++ (inserted, gap) :: rest ∧
      inserted = front ++ (placeholder.token ++ back) ∧ before = Text.woven first done ++ front ∧
      after = Text.woven (back ++ gap) rest := by
  obtain ⟨tail, htail⟩ : ∃ tail, placeholder.token = '?' :: tail := by
    rcases placeholder.token_eq with htoken | ⟨c, -, htoken⟩
    · exact ⟨[], htoken⟩
    · exact ⟨[c], htoken⟩
  induction pairs generalizing first before with
  | nil =>
      have hmem : '?' ∈ Text.woven first [] := by
        rw [h, htail]
        simp
      exact absurd (by simpa [Text.woven] using hmem) hfirst
  | cons pair pairs ih =>
      obtain ⟨inserted, gap⟩ := pair
      have hpair : Seam (inserted, gap) := hpairs _ List.mem_cons_self
      have hrest : ∀ pair ∈ pairs, Seam pair := fun pair hmem => hpairs pair (.tail _ hmem)
      have hwoven : Text.woven first ((inserted, gap) :: pairs) =
          first ++ (inserted ++ Text.woven gap pairs) := by
        simp [Text.woven]
      rw [hwoven, htail, List.cons_append] at h
      -- the mark is not in the first gap, so all of that stands before it
      rcases Text.append_eq_append_cons h with ⟨front, rfl, hfront⟩ | ⟨mid, rfl, -⟩
      · rcases Text.append_eq_append_cons hfront with ⟨later, rfl, hlater⟩ | ⟨mid, rfl, hafter⟩
        · -- it lies behind the inserted text
          rw [← List.cons_append, ← htail] at hlater
          obtain ⟨done, inserted', gap', rest, front', back, rfl, hinserted, rfl, hafter⟩ :=
            ih hpair.unmarked hrest hlater
          refine ⟨(inserted, gap) :: done, inserted', gap', rest, front', back, rfl, hinserted, ?_,
            hafter⟩
          simp [Text.woven]
        · -- it lies in the inserted text, and ends there
          have htoken : '?' :: (mid ++ (gap ++ pairs.flatMap fun pair => pair.1 ++ pair.2)) =
              placeholder.token ++ after := by
            rw [htail, List.cons_append, hafter]
            rfl
          obtain ⟨back, hback, rfl⟩ := hpair.token_inside (neutral_of_seams hrest) rfl htoken
          refine ⟨[], front ++ '?' :: mid, gap, pairs, front, back, rfl, ?_, ?_, ?_⟩
          · rw [hback]
          · simp [Text.woven]
          · simp [Text.woven]
      · exact absurd (by simp) hfirst

/-! ## One step, and the whole run -/

/-- **THE STEP**: putting a written text in place leaves the gaps as they are, and seams between
    them. -/
theorem put_woven {first : Text} {pairs : List (Text × Text)} (hfirst : '?' ∉ first)
    (hpairs : ∀ pair ∈ pairs, Seam pair) {written : Text} (hne : written ≠ [])
    (hneutral : written.Neutral) (hended : written.Ended) (placeholder : Placeholder) :
    ∃ pairs', Compilation.put (Text.woven first pairs) (placeholder, written) =
        Text.woven first pairs' ∧
      pairs'.map Prod.snd = pairs.map Prod.snd ∧ ∀ pair ∈ pairs', Seam pair := by
  cases hsplit : (Text.woven first pairs).splitFirst? placeholder.token with
  | none => exact ⟨pairs, Compilation.put_of_missing hsplit, rfl, hpairs⟩
  | some found =>
      obtain ⟨before, after⟩ := found
      have hcut := Text.splitFirst?_eq_some hsplit
      rw [List.append_assoc] at hcut
      obtain ⟨done, inserted, gap, rest, front, back, rfl, rfl, rfl, rfl⟩ :=
        exists_seam hfirst hpairs hcut
      refine ⟨done ++ (front ++ (written ++ back), gap) :: rest, ?_, ?_, ?_⟩
      · rw [Compilation.put_of_found hsplit]
        simp [Text.woven]
      · simp
      · intro pair hpair
        rcases List.mem_append.mp hpair with hdone | hpair
        · exact hpairs pair (List.mem_append_left _ hdone)
        · rcases List.mem_cons.mp hpair with rfl | hrest
          · have hseam : Seam (front ++ (placeholder.token ++ back), gap) :=
              hpairs _ (List.mem_append_right _ List.mem_cons_self)
            exact hseam.replace hne hneutral hended
          · exact hpairs pair (List.mem_append_right _ (List.mem_cons_of_mem _ hrest))

/-- **THE RUN**: texts put in place one after the other leave the gaps as they are. -/
theorem foldl_put_woven {fillings : List (Placeholder × Text)}
    (hfillings : ∀ filling ∈ fillings, filling.2 ≠ [] ∧ filling.2.Neutral ∧ filling.2.Ended)
    {first : Text} {pairs : List (Text × Text)} (hfirst : '?' ∉ first)
    (hpairs : ∀ pair ∈ pairs, Seam pair) :
    ∃ pairs', fillings.foldl Compilation.put (Text.woven first pairs) = Text.woven first pairs' ∧
      pairs'.map Prod.snd = pairs.map Prod.snd := by
  induction fillings generalizing pairs with
  | nil => exact ⟨pairs, rfl, rfl⟩
  | cons filling fillings ih =>
      obtain ⟨placeholder, written⟩ := filling
      obtain ⟨hne, hneutral, hended⟩ := hfillings _ List.mem_cons_self
      obtain ⟨pairs', hput, hgaps, hpairs'⟩ :=
        put_woven hfirst hpairs hne hneutral hended placeholder
      obtain ⟨pairs'', hrun, hgaps'⟩ :=
        ih (fun filling hmem => hfillings filling (List.mem_cons_of_mem _ hmem)) hpairs'
      refine ⟨pairs'', ?_, hgaps'.trans hgaps⟩
      rw [List.foldl_cons, hput]
      exact hrun

/-- Before the run, the texts between the gaps are the placeholders. -/
theorem Text.exists_woven (text : Text) :
    '?' ∉ (gaps text).1 ∧ ∃ pairs, text = woven (gaps text).1 pairs ∧
      pairs.map Prod.snd = (gaps text).2 ∧ ∀ pair ∈ pairs, Seam pair := by
  obtain ⟨first, others, hparts, htext, hfirst, hothers⟩ := eq_parts '?' text
  have hgaps : gaps text = (first, others.map behindLetter) := by
    rw [gaps, hparts]
    rfl
  rw [hgaps]
  refine ⟨hfirst, ?_⟩
  suffices hrow : ∃ pairs : List (Text × Text),
      (others.flatMap ('?' :: ·) = pairs.flatMap fun (inserted, gap) => inserted ++ gap) ∧
      pairs.map Prod.snd = others.map behindLetter ∧ ∀ pair ∈ pairs, Seam pair by
    obtain ⟨pairs, hflat, hrow⟩ := hrow
    refine ⟨pairs, ?_, hrow⟩
    rw [htext, hflat]
    rfl
  clear htext hparts hgaps
  induction others with
  | nil => exact ⟨[], rfl, rfl, nofun⟩
  | cons part others ih =>
      obtain ⟨token, hseam, htoken⟩ := Seam.of_part (hothers part List.mem_cons_self)
      obtain ⟨pairs, hflat, hgaps, hpairs⟩ :=
        ih fun other hother => hothers other (List.mem_cons_of_mem part hother)
      refine ⟨(token, part.behindLetter) :: pairs, ?_, ?_, ?_⟩
      · rw [List.flatMap_cons, List.flatMap_cons, hflat, ← htoken]
      · rw [List.map_cons, List.map_cons, hgaps]
      · intro pair hpair
        rcases List.mem_cons.mp hpair with rfl | hpair
        · exact hseam
        · exact hpairs pair hpair

/-- **GAPS**: a compilation that succeeds without empty texts keeps the gaps of the resolved
    template in order, with texts put between them. So a template without question marks stays as
    it is, and what stands before the first one always begins the SQL. -/
theorem compile_keeps_gaps {escape : Escaper} {template sql : Text} {params : List Value}
    (hparams : params ≠ []) (hsql : compile escape template params = .ok sql)
    (hplain : ∀ value ∈ params, ∀ param, Param.classify? params.length value = some param →
      ∀ written, param.text escape = .ok written → written ≠ []) :
    (∃ pairs : List (Text × Text),
      pairs.map Prod.snd = (Text.gaps (Block.resolve (params.any Value.isSkip) template)).2 ∧
      sql = Text.woven (Text.gaps (Block.resolve (params.any Value.isSkip) template)).1 pairs) ∧
    ('?' ∉ Block.resolve (params.any Value.isSkip) template →
      sql = Block.resolve (params.any Value.isSkip) template) ∧
    ∀ before after, Block.resolve (params.any Value.isSkip) template = before ++ '?' :: after →
      '?' ∉ before → before <+: sql := by
  obtain ⟨fillings, hfillings, rfl⟩ := (compile_eq_ok_iff hparams).mp hsql
  have hwritten : ∀ filling ∈ fillings,
      filling.2 ≠ [] ∧ filling.2.Neutral ∧ filling.2.Ended := by
    intro filling hmem
    obtain ⟨value, hvalue, param, hrole, htext, -⟩ :=
      Compilation.exists_value_of_fillings hfillings hmem
    exact ⟨hplain value hvalue param hrole filling.2 htext, Param.text_neutral htext,
      Param.text_ended htext⟩
  generalize Block.resolve (params.any Value.isSkip) template = text
  obtain ⟨hfirst, pairs, htext, hgaps, hpairs⟩ := Text.exists_woven text
  obtain ⟨pairs', hrun, hgaps'⟩ := foldl_put_woven hwritten hfirst hpairs
  rw [← htext] at hrun
  rw [hgaps] at hgaps'
  refine ⟨⟨pairs', hgaps', hrun⟩, ?_, ?_⟩
  · intro hmark
    have hcut : Text.gaps text = (text, []) := by
      rw [Text.gaps, Text.parts_self hmark]
      rfl
    rw [hcut] at hgaps' hrun
    rw [List.map_eq_nil_iff.mp hgaps'] at hrun
    rw [hrun]
    exact List.append_nil text
  · intro before after hcut hbefore
    have hleading : (Text.gaps text).1 = before := by
      rw [Text.gaps, hcut, Text.parts_append hbefore]
      rfl
    rw [hrun, hleading]
    exact List.prefix_append _ _

/-- The null goes into the name that the map puts in place; the gaps stay. -/
theorem compile_keeps_gaps_captured :
    ∃ pairs : List (Text × Text), pairs.map Prod.snd = [" b".toList, " c".toList, "d".toList] ∧
      "a `NULL#\x7b` = '?' b? c`y`d".toList = Text.woven "a ".toList pairs := by
  have hsql : compile id "a ?a b? c?#d".toList
      [.map [("?#\x7b".toList, .string "?".toList)], .null, .string "y".toList] =
        .ok "a `NULL#\x7b` = '?' b? c`y`d".toList := by decide
  refine (compile_keeps_gaps (by decide) hsql ?_).1
  intro value hvalue param hrole written hwritten
  simp only [List.mem_cons, List.not_mem_nil, or_false] at hvalue
  rcases hvalue with rfl | rfl | rfl
  all_goals
    cases hrole
    cases hwritten
    decide

end SqlTemplate
