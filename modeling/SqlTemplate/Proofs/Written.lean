import SqlTemplate.Rendering
import SqlTemplate.Proofs.Numbers
import SqlTemplate.Proofs.Rows

/-!
# Written parameters — what the texts of parameters are made of

A parameter is written as one entry or as a row of entries with commas between them, and an entry is
a null, a number or a string between quotes. Later files need no more than that:

* **`entryText_eq_ok`** — an entry that is written is `NULL`, a number, or a string that the
  caller's function writes;
* **`Param.text_induction`** — so every written parameter is made of such texts;
* **`Param.text_neutral`** — no written text begins with a character that would make a typed
  placeholder of a question mark before it;
* **`Param.text_ended`** — and none ends with a question mark.
-/

namespace SqlTemplate

/-! ## Rows of texts -/

/-- One text is joined to itself. -/
theorem Text.join_singleton (separator text : Text) : join separator [text] = text :=
  List.intercalate_singleton

/-- Joining puts a separator behind the first of several texts. -/
theorem Text.join_cons_cons (separator text next : Text) (others : List Text) :
    join separator (text :: next :: others) =
      text ++ (separator ++ join separator (next :: others)) := by
  simp [join, List.intercalate]

open Rendering

/-- A boolean is written as a number. -/
theorem isPositional_boolText (b : Bool) : Numeral.IsPositional (boolText b) := by
  have hdigit (c : Char) (hc : c.isDigit = true) : Numeral.IsPositional [c] :=
    ⟨[], [c], [], rfl, Or.inl rfl, ⟨by simp, by simpa using hc⟩, Or.inl rfl⟩
  cases b with
  | true => exact hdigit '1' rfl
  | false => exact hdigit '0' rfl

/-- **ENTRIES**: what is written for an entry is `NULL`, a number, or what the caller writes for a
    string. -/
theorem entryText_eq_ok {stringText : Text → Text} {value : Value} {entry : Text}
    (h : entryText stringText value = .ok entry) :
    entry = "NULL".toList ∨ Numeral.IsPositional entry ∨
      ∃ s, value = .string s ∧ entry = stringText s := by
  cases value with
  | null => exact Or.inl (Except.ok.inj h).symm
  | bool b =>
      refine Or.inr (Or.inl ?_)
      rw [← Except.ok.inj h]
      exact isPositional_boolText b
  | int n =>
      refine Or.inr (Or.inl ?_)
      rw [← Except.ok.inj h]
      exact Numeral.isPositional_ofInt n.toInt
  | float x =>
      refine Or.inr (Or.inl ?_)
      by_cases hfinite : x.isFinite = true
      · rw [entryText, floatText, if_pos hfinite] at h
        rw [← Except.ok.inj h]
        exact x.isPositional_text
      · rw [entryText, floatText, if_neg hfinite] at h
        exact nomatch h
  | string s => exact Or.inr (Or.inr ⟨s, rfl, (Except.ok.inj h).symm⟩)
  | list _ => exact nomatch h
  | map _ => exact nomatch h
  | skip => exact nomatch h

/-- An entry is written alike by functions that agree on its string, if it is one. -/
theorem entryText_congr {stringText stringText' : Text → Text} {value : Value}
    (h : ∀ s, value = .string s → stringText s = stringText' s) :
    entryText stringText value = entryText stringText' value := by
  cases value with
  | string s => exact congrArg Except.ok (h s rfl)
  | _ => rfl

theorem assignmentText_congr {stringText stringText' : Text → Text} {field : Text × Value}
    (h : ∀ s, field.2 = .string s → stringText s = stringText' s) :
    assignmentText stringText field = assignmentText stringText' field := by
  rw [assignmentText, assignmentText, entryText_congr h]

/-- An assignment that is written is the name between backticks, an equals sign and the entry. -/
theorem assignmentText_eq_ok {stringText : Text → Text} {field : Text × Value} {written : Text}
    (h : assignmentText stringText field = .ok written) :
    ∃ entry, entryText stringText field.2 = .ok entry ∧
      written = Quote.backtick field.1 ++ " = ".toList ++ entry := by
  cases hentry : entryText stringText field.2 with
  | error fault =>
      rw [assignmentText, hentry] at h
      exact nomatch h
  | ok entry =>
      rw [assignmentText, hentry] at h
      exact ⟨entry, rfl, (Except.ok.inj h).symm⟩

/-- A row that is written is its entries, all written, with commas between them. -/
theorem commaSeparated_eq_ok {α : Type} {write : α → Except Fault Text} {items : List α}
    {written : Text} (h : commaSeparated <$> items.mapM write = .ok written) :
    ∃ entries, items.mapM write = .ok entries ∧ written = commaSeparated entries := by
  cases hentries : items.mapM write with
  | error fault =>
      rw [hentries] at h
      exact nomatch h
  | ok entries =>
      rw [hentries] at h
      exact ⟨entries, rfl, (Except.ok.inj h).symm⟩

/-- Every entry stands in its row as it is. -/
theorem infix_commaSeparated {entries : List Text} {entry : Text} (h : entry ∈ entries) :
    entry <:+: commaSeparated entries := by
  induction entries with
  | nil => exact nomatch h
  | cons first rest ih =>
      cases rest with
      | nil =>
          have htext : commaSeparated [first] = entry :=
            (Text.join_singleton _ first).trans (List.mem_singleton.mp h).symm
          exact htext ▸ List.infix_refl _
      | cons next rest =>
          rw [commaSeparated, Text.join_cons_cons]
          rcases List.mem_cons.mp h with rfl | hrest
          · exact (List.prefix_append _ _).isInfix
          · exact ((ih hrest).trans (List.suffix_append _ _).isInfix).trans
              (List.suffix_append _ _).isInfix

/-- **WRITTEN TEXTS**: what holds of nulls, numbers, literals and identifiers, of assignments of
    such texts and of rows of them holds of every written parameter. -/
theorem Param.text_induction {P : Text → Prop} (hnull : P "NULL".toList)
    (hnumber : ∀ number, Numeral.IsPositional number → P number)
    (hsingle : ∀ s, P (Quote.single s)) (hbacktick : ∀ s, P (Quote.backtick s))
    (hassignment : ∀ name entry, P entry → P (Quote.backtick name ++ " = ".toList ++ entry))
    (hrow : ∀ entries, (∀ entry ∈ entries, P entry) → P (commaSeparated entries))
    {escape : Escaper} {param : Param} {written : Text} (h : param.text escape = .ok written) :
    P written := by
  have hentry {stringText : Text → Text} (hstring : ∀ s, P (stringText s)) (value : Value)
      (entry : Text) (h : entryText stringText value = .ok entry) : P entry := by
    rcases entryText_eq_ok h with rfl | hpositional | ⟨s, -, rfl⟩
    · exact hnull
    · exact hnumber entry hpositional
    · exact hstring s
  have hitems {α : Type} {write : α → Except Fault Text} {items : List α}
      (hwrite : ∀ item entry, write item = .ok entry → P entry)
      (h : commaSeparated <$> items.mapM write = .ok written) : P written := by
    obtain ⟨entries, hentries, rfl⟩ := commaSeparated_eq_ok h
    refine hrow entries fun entry hmem => ?_
    obtain ⟨item, -, hitem⟩ := exists_item_of_mapM_eq_ok hentries hmem
    exact hwrite item entry hitem
  cases param with
  | null => exact hentry hsingle .null written h
  | bool b => exact hentry hsingle (.bool b) written h
  | int n => exact hentry hsingle (.int n) written h
  | float x => exact hentry hsingle (.float x) written h
  | literal s =>
      rw [← Except.ok.inj h]
      exact hsingle (escape s)
  | identifier s =>
      rw [← Except.ok.inj h]
      exact hbacktick s
  | values items => exact hitems (hentry fun s => hsingle (escape s)) h
  | identifiers items => exact hitems (hentry fun s => hbacktick (escape s)) h
  | assignments fields =>
      refine hitems (fun field entry hfield => ?_) h
      obtain ⟨value, hvalue, rfl⟩ := assignmentText_eq_ok hfield
      exact hassignment field.1 value (hentry (fun s => hsingle (escape s)) field.2 value hvalue)

/-! ## First characters -/

/-- The characters that make a typed placeholder of a question mark before them. -/
def Placeholder.letters : List Char := ['d', 'f', 'a', '#']

/-- A placeholder is a question mark, alone or with a letter behind it. -/
theorem Placeholder.token_eq (placeholder : Placeholder) :
    placeholder.token = ['?'] ∨ ∃ c ∈ letters, placeholder.token = ['?', c] := by
  cases placeholder with
  | generic => exact Or.inl rfl
  | integer => exact Or.inr ⟨'d', by decide, rfl⟩
  | float => exact Or.inr ⟨'f', by decide, rfl⟩
  | values => exact Or.inr ⟨'a', by decide, rfl⟩
  | identifiers => exact Or.inr ⟨'#', by decide, rfl⟩

/-- A text that makes no typed placeholder of a question mark before it. -/
def Text.Neutral (text : Text) : Prop :=
  ∀ c ∈ Placeholder.letters, text.head? ≠ some c

/-- A text is neutral if it begins with a character that is no letter of placeholders. -/
theorem Text.neutral_cons {c : Char} (h : c ∉ Placeholder.letters) (rest : Text) :
    Neutral (c :: rest) := by
  intro d hd heq
  rw [List.head?_cons, Option.some.injEq] at heq
  exact h (heq ▸ hd)

/-- A number is neutral. -/
theorem Text.neutral_of_isPositional {text : Text} (h : Numeral.IsPositional text) :
    Neutral text := by
  cases text with
  | nil => exact absurd rfl h.ne_nil
  | cons c rest =>
      refine neutral_cons (fun hc => ?_) rest
      have hnumeric : Numeral.isNumeric c = true := h.isNumeric List.mem_cons_self
      have hletters : (Placeholder.letters.all fun d => !Numeral.isNumeric d) = true := rfl
      have hletter : (!Numeral.isNumeric c) = true := List.all_eq_true.mp hletters c hc
      rw [hnumeric] at hletter
      exact nomatch hletter

/-- A row of neutral texts is neutral. -/
theorem commaSeparated_neutral {entries : List Text} (h : ∀ entry ∈ entries, entry.Neutral) :
    (commaSeparated entries).Neutral := by
  cases entries with
  | nil => exact fun _ _ heq => nomatch heq
  | cons entry rest =>
      have hentry : entry.Neutral := h entry List.mem_cons_self
      cases rest with
      | nil =>
          rw [commaSeparated, Text.join_singleton]
          exact hentry
      | cons next rest =>
          rw [commaSeparated, Text.join_cons_cons]
          cases entry with
          | nil => exact Text.neutral_cons (by decide) _
          | cons c entry => exact hentry

/-- **NEUTRAL**: no written parameter begins with a letter that completes a placeholder. -/
theorem Param.text_neutral {escape : Escaper} {param : Param} {written : Text}
    (h : param.text escape = .ok written) : written.Neutral := by
  refine text_induction (P := Text.Neutral) ?_ ?_ ?_ ?_ ?_ ?_ h
  · exact Text.neutral_cons (by decide) _
  · exact fun _ => Text.neutral_of_isPositional
  · exact fun _ => Text.neutral_cons (by decide) _
  · exact fun _ => Text.neutral_cons (by decide) _
  · exact fun _ _ _ => Text.neutral_cons (by decide) _
  · exact fun _ => commaSeparated_neutral

/-! ## Last characters -/

/-- A text that ends with no question mark, which what stands behind it could complete. -/
def Text.Ended (text : Text) : Prop :=
  text.getLast? ≠ some '?'

theorem Text.ended_concat {c : Char} (h : c ≠ '?') (text : Text) : Ended (text ++ [c]) := by
  intro heq
  rw [List.getLast?_concat] at heq
  exact h (Option.some.inj heq)

/-- A text ends as what stands behind its front does, if that is not empty. -/
theorem Text.Ended.append {front text : Text} (h : Ended text) (hne : text ≠ []) :
    Ended (front ++ text) := by
  intro heq
  rw [List.getLast?_append_of_ne_nil front hne] at heq
  exact h heq

theorem Text.ended_of_isPositional {text : Text} (h : Numeral.IsPositional text) : Ended text := by
  intro heq
  have hmark : '?' ∈ text := List.mem_of_getLast? heq
  exact absurd (h.isNumeric hmark) (by decide)

/-- A row of texts that end so ends so, also where the last of them is empty. -/
theorem commaSeparated_ended {entries : List Text} (h : ∀ entry ∈ entries, entry.Ended) :
    (commaSeparated entries).Ended := by
  induction entries with
  | nil => exact nofun
  | cons entry rest ih =>
      cases rest with
      | nil =>
          rw [commaSeparated, Text.join_singleton]
          exact h entry List.mem_cons_self
      | cons next rest =>
          have hrest : (commaSeparated (next :: rest)).Ended :=
            ih fun entry hentry => h entry (List.mem_cons_of_mem _ hentry)
          rw [commaSeparated, Text.join_cons_cons]
          refine Text.Ended.append ?_ (by simp)
          by_cases hempty : commaSeparated (next :: rest) = []
          · rw [commaSeparated] at hempty
            rw [hempty]
            exact Text.ended_concat (by decide) [',']
          · exact hrest.append hempty

/-- **ENDED**: no written parameter ends with a question mark. -/
theorem Param.text_ended {escape : Escaper} {param : Param} {written : Text}
    (h : param.text escape = .ok written) : written.Ended := by
  refine text_induction (P := Text.Ended) ?_ ?_ ?_ ?_ ?_ ?_ h
  · exact Text.ended_concat (by decide) "NUL".toList
  · exact fun _ => Text.ended_of_isPositional
  · exact fun s => Text.ended_concat (by decide) ('\'' :: s)
  · exact fun s => Text.ended_concat (by decide) ('\x60' :: s)
  · intro name entry hentry
    by_cases hempty : entry = []
    · rw [hempty, List.append_nil]
      exact (Text.ended_concat (by decide) [' ', '=']).append (by decide)
    · exact hentry.append hempty
  · exact fun _ => commaSeparated_ended

end SqlTemplate
