/-!
# Text — lists of characters, and the first occurrence of a token

Templates, values and SQL are all texts: finite lists of Unicode characters. The one search that a
compilation does is for the first occurrence of a token:

* `Text.after?` reads a token at the front of a text and leaves the rest;
* `Text.splitFirst?` cuts a text around the first occurrence, keeping what stands on either side;
* `splitFirst?_eq_some` says that the two sides and the token make up the text again;
* `splitFirst?_eq_none` says that a search fails only where the token occurs nowhere.

Texts of other kinds are cut at every occurrence of one character: `Text.parts` cuts, `Text.join`
puts together again (`join_parts`), and a text without the character is one part (`parts_self`,
`parts_append`).
-/

namespace SqlTemplate

/-- A text is a list of characters. -/
abbrev Text := List Char

namespace Text

/-- What follows `token` in a text that starts with it. -/
def after? : (text token : Text) → Option Text
  | text, [] => some text
  | [], _ :: _ => none
  | c :: text, d :: token => if c = d then after? text token else none

/-- The texts before and after the first occurrence of `token`, if it occurs. -/
def splitFirst? : (text token : Text) → Option (Text × Text)
  | [], token => (after? [] token).map fun after => ([], after)
  | c :: text, token =>
    match after? (c :: text) token with
    | some after => some ([], after)
    | none => (splitFirst? text token).map fun (before, after) => (c :: before, after)

/-- The parts of a text between the occurrences of a mark, one more than there are marks. -/
def parts (mark : Char) : Text → List Text
  | [] => [[]]
  | c :: text =>
    if c = mark then [] :: parts mark text
    else
      match parts mark text with
      | [] => [[c]]
      | part :: others => (c :: part) :: others

/-- The texts one after the other with `separator` between neighbours. -/
def join (separator : Text) (texts : List Text) : Text :=
  separator.intercalate texts

/-- Joining the parts of a text with the mark gives the text back. -/
theorem join_parts (mark : Char) (text : Text) : join [mark] (parts mark text) = text := by
  have hcons (part : Text) (others : List Text) (h : others ≠ []) :
      join [mark] (part :: others) = part ++ mark :: join [mark] others := by
    cases others with
    | nil => exact absurd rfl h
    | cons next others => simp [join, List.intercalate]
  have hne (text : Text) : parts mark text ≠ [] := by
    cases text with
    | nil => simp [parts]
    | cons c text =>
        simp only [parts]
        split
        · simp
        · split <;> simp
  induction text with
  | nil => rfl
  | cons c text ih =>
      by_cases h : c = mark
      · rw [parts, if_pos h, hcons _ _ (hne text), ih, h]
        rfl
      · rw [parts, if_neg h]
        split
        next hnil => exact absurd hnil (hne text)
        next part others hparts =>
          rw [hparts] at ih
          cases others with
          | nil =>
              simp only [join, List.intercalate_singleton] at ih ⊢
              rw [ih]
          | cons next others =>
              rw [hcons _ _ (by simp)] at ih ⊢
              rw [← ih]
              rfl

/-- A text without the mark is one part. -/
theorem parts_self {mark : Char} {text : Text} (h : mark ∉ text) : parts mark text = [text] := by
  induction text with
  | nil => rfl
  | cons c text ih =>
      have hc : c ≠ mark := fun heq => h (heq ▸ List.mem_cons_self)
      rw [parts, if_neg hc, ih fun hmem => h (List.mem_cons_of_mem c hmem)]

/-- A text without the mark is the first part of one that goes on behind a mark. -/
theorem parts_append {mark : Char} {text : Text} (h : mark ∉ text) (more : Text) :
    parts mark (text ++ mark :: more) = text :: parts mark more := by
  induction text with
  | nil => exact if_pos rfl
  | cons c text ih =>
      have hc : c ≠ mark := fun heq => h (heq ▸ List.mem_cons_self)
      rw [List.cons_append, parts, if_neg hc, ih fun hmem => h (List.mem_cons_of_mem c hmem)]

/-! ## What a search finds -/

/-- A text starts with a token exactly if it is the token and a rest. -/
theorem after?_eq_some_iff {text token after : Text} :
    text.after? token = some after ↔ text = token ++ after := by
  induction token generalizing text with
  | nil => simp [after?]
  | cons d token ih =>
      cases text with
      | nil => simp [after?]
      | cons c text =>
          by_cases h : c = d
          · simp [after?, h, ih]
          · simp [after?, h]

/-- What a search leaves on either side makes up the text again, with the token between. -/
theorem splitFirst?_eq_some {text token before after : Text}
    (h : text.splitFirst? token = some (before, after)) : text = before ++ token ++ after := by
  induction text generalizing before with
  | nil =>
      simp only [splitFirst?, Option.map_eq_some_iff, Prod.mk.injEq] at h
      obtain ⟨rest, hrest, rfl, rfl⟩ := h
      simpa using after?_eq_some_iff.mp hrest
  | cons c text ih =>
      simp only [splitFirst?] at h
      split at h
      next found hfound =>
        simp only [Option.some.injEq, Prod.mk.injEq] at h
        obtain ⟨rfl, rfl⟩ := h
        simpa using after?_eq_some_iff.mp hfound
      next =>
        obtain ⟨⟨b, a⟩, hsplit, heq⟩ := Option.map_eq_some_iff.mp h
        simp only [Prod.mk.injEq] at heq
        obtain ⟨rfl, rfl⟩ := heq
        rw [ih hsplit]
        simp

/-- A search fails only in a text that the token is no part of. -/
theorem splitFirst?_eq_none {text token : Text} (h : text.splitFirst? token = none)
    (before after : Text) : text ≠ before ++ token ++ after := by
  induction text generalizing before with
  | nil =>
      intro heq
      have htoken : token = [] := by
        have := congrArg List.length heq
        cases token with
        | nil => rfl
        | cons d ds => simp at this
      subst htoken
      simp [splitFirst?, after?] at h
  | cons c text ih =>
      intro heq
      simp only [splitFirst?] at h
      split at h
      next => simp at h
      next hmiss =>
        cases before with
        | nil =>
            have hfound : after? (c :: text) token = some after :=
              after?_eq_some_iff.mpr (by simpa using heq)
            rw [hfound] at hmiss
            exact Option.some_ne_none _ hmiss
        | cons d before =>
            simp only [List.cons_append, List.cons.injEq] at heq
            exact ih (Option.map_eq_none_iff.mp h) before heq.2

end Text
end SqlTemplate
