import SqlTemplate.Dialect
import SqlTemplate.Sql.Literal

/-!
# Doubling — what is written twice is read once

The standard escaper writes single quotes twice and then backticks twice, so that one text can stand
between quotes of either kind. Each pass is a doubling, and the reader for a mark takes back the
doubling of that mark and nothing else:

* `readDoubled_cons_of_ne`, `readDoubled_pair` and `readDoubled_end` are the steps of the reader;
* **`readDoubled_eq_some_iff`** — it reads a content exactly where the content stands doubled before
  a mark that no other one follows, so doubling can be undone (`doubled_injective`);
* `doubled_comm` — the two passes do not meet, and `escapeStandard_eq` — so they are one pass;
* `escapeStandard_quoted` — the escaper's output is read up to the closing mark, be it a quote or a
  backtick.
-/

namespace SqlTemplate

open Dialect Sql

/-! ## Doubled texts -/

theorem doubled_cons_self (mark : Char) (s : Text) :
    doubled mark (mark :: s) = mark :: mark :: doubled mark s := by
  rw [doubled, List.flatMap_cons, if_pos rfl]
  rfl

theorem doubled_cons_of_ne {mark c : Char} (h : c ≠ mark) (s : Text) :
    doubled mark (c :: s) = c :: doubled mark s := by
  rw [doubled, List.flatMap_cons, if_neg h]
  rfl

theorem doubled_append (mark : Char) (s t : Text) :
    doubled mark (s ++ t) = doubled mark s ++ doubled mark t :=
  List.flatMap_append

/-- Doubling adds as many characters as there are marks. -/
theorem length_doubled (mark : Char) (s : Text) :
    (doubled mark s).length = s.length + s.count mark := by
  induction s with
  | nil => rfl
  | cons c s ih =>
      by_cases h : c = mark
      · subst h
        rw [doubled_cons_self, List.count_cons_self, List.length_cons, List.length_cons, ih,
          List.length_cons]
        omega
      · rw [doubled_cons_of_ne h, List.count_cons_of_ne h, List.length_cons, ih, List.length_cons]
        omega

/-- A text without the mark stays as it is. -/
theorem doubled_of_not_mem {mark : Char} {s : Text} (h : mark ∉ s) : doubled mark s = s := by
  induction s with
  | nil => rfl
  | cons c s ih =>
      have hc : c ≠ mark := fun heq => h (heq ▸ List.mem_cons_self)
      rw [doubled_cons_of_ne hc, ih fun hmem => h (List.mem_cons_of_mem c hmem)]

/-- No other text does. -/
theorem doubled_eq_self_iff {mark : Char} {s : Text} : doubled mark s = s ↔ mark ∉ s := by
  constructor
  · intro h
    have hlength : s.length + s.count mark = s.length := by rw [← length_doubled, h]
    exact List.count_eq_zero.mp (by omega)
  · exact doubled_of_not_mem

/-- A text that begins with a mark is a doubled one only if it goes on with the mark. -/
theorem cons_eq_doubled {mark : Char} {text s : Text} (h : mark :: text = doubled mark s) :
    ∃ rest, text = mark :: doubled mark rest := by
  cases s with
  | nil => exact nomatch h
  | cons c s =>
      by_cases hc : c = mark
      · subst hc
        rw [doubled_cons_self] at h
        exact ⟨s, (List.cons.inj h).2⟩
      · rw [doubled_cons_of_ne hc] at h
        exact absurd (List.cons.inj h).1.symm hc

/-- Behind a front without the mark, a doubled text goes on as a doubled text. -/
theorem append_eq_doubled {mark : Char} {front text s : Text} (hfront : mark ∉ front)
    (h : front ++ text = doubled mark s) : ∃ rest, text = doubled mark rest := by
  induction front generalizing s with
  | nil => exact ⟨s, h⟩
  | cons d front ih =>
      have hd : d ≠ mark := fun heq => hfront (heq ▸ List.mem_cons_self)
      cases s with
      | nil => exact nomatch h
      | cons c s =>
          by_cases hc : c = mark
          · subst hc
            rw [doubled_cons_self] at h
            exact absurd (List.cons.inj h).1 hd
          · rw [doubled_cons_of_ne hc] at h
            exact ih (fun hmem => hfront (.tail d hmem)) (List.cons.inj h).2

/-- Doubling one mark and then another is doubling them the other way round. -/
theorem doubled_comm {mark other : Char} (h : mark ≠ other) (s : Text) :
    doubled mark (doubled other s) = doubled other (doubled mark s) := by
  induction s with
  | nil => rfl
  | cons c s ih =>
      by_cases hmark : c = mark
      · subst hmark
        rw [doubled_cons_of_ne h, doubled_cons_self, doubled_cons_self, doubled_cons_of_ne h,
          doubled_cons_of_ne h, ih]
      · by_cases hother : c = other
        · subst hother
          rw [doubled_cons_self, doubled_cons_of_ne hmark, doubled_cons_of_ne hmark,
            doubled_cons_of_ne hmark, doubled_cons_self, ih]
        · rw [doubled_cons_of_ne hother, doubled_cons_of_ne hmark, doubled_cons_of_ne hmark,
            doubled_cons_of_ne hother, ih]

/-! ## The reader -/

namespace Sql.Literal

/-- A character that is no mark stands for itself. -/
theorem readDoubled_cons_of_ne {mark c : Char} (h : c ≠ mark) (text : Text) :
    readDoubled mark (c :: text) = (readDoubled mark text).map (following c) := by
  cases text with
  | nil => exact if_neg h
  | cons d text => exact if_pos h

/-- Two marks stand for one. -/
theorem readDoubled_pair (mark : Char) (text : Text) :
    readDoubled mark (mark :: mark :: text) = (readDoubled mark text).map (following mark) := by
  rw [readDoubled, if_neg (not_not_intro rfl), if_pos rfl]

/-- A mark that no other one follows ends the content. -/
theorem readDoubled_end {mark : Char} {rest : Text} (h : rest.head? ≠ some mark) :
    readDoubled mark (mark :: rest) = some ([], rest) := by
  cases rest with
  | nil => exact if_pos rfl
  | cons d rest =>
      have hd : d ≠ mark := fun heq => h (congrArg some heq)
      rw [readDoubled, if_neg (not_not_intro rfl), if_neg hd]

/-- **READING UNDOES DOUBLING**: a doubled text is read as the text, up to the closing mark. -/
theorem readDoubled_doubled (mark : Char) (s : Text) {rest : Text} (h : rest.head? ≠ some mark) :
    readDoubled mark (doubled mark s ++ mark :: rest) = some (s, rest) := by
  induction s with
  | nil => exact readDoubled_end h
  | cons c s ih =>
      by_cases hc : c = mark
      · subst hc
        rw [doubled_cons_self, List.cons_append, List.cons_append, readDoubled_pair, ih]
        rfl
      · rw [doubled_cons_of_ne hc, List.cons_append, readDoubled_cons_of_ne hc, ih]
        rfl

/-- **WHAT IS READ**: a content is read exactly where it stands doubled before a mark that no other
    one follows. -/
theorem readDoubled_eq_some_iff {mark : Char} {text content rest : Text} :
    readDoubled mark text = some (content, rest) ↔
      text = doubled mark content ++ mark :: rest ∧ rest.head? ≠ some mark := by
  constructor
  · intro h
    fun_induction readDoubled mark text generalizing content with
    | case1 => exact nomatch h
    | case2 =>
        obtain ⟨rfl, rfl⟩ := Prod.mk.inj (Option.some.inj h)
        exact ⟨rfl, nofun⟩
    | case3 => exact nomatch h
    | case4 c d text hc ih =>
        obtain ⟨⟨tail, behind⟩, hread, hpair⟩ := Option.map_eq_some_iff.mp h
        obtain ⟨rfl, rfl⟩ := Prod.mk.inj hpair
        obtain ⟨htext, hrest⟩ := ih hread
        exact ⟨by rw [doubled_cons_of_ne hc, List.cons_append, htext], hrest⟩
    | case5 c text hc ih =>
        obtain ⟨⟨tail, behind⟩, hread, hpair⟩ := Option.map_eq_some_iff.mp h
        obtain ⟨rfl, rfl⟩ := Prod.mk.inj hpair
        obtain ⟨htext, hrest⟩ := ih hread
        have hmark : c = mark := Decidable.of_not_not hc
        exact ⟨by rw [doubled_cons_self, htext, hmark]; rfl, hrest⟩
    | case6 c d text hc hd =>
        obtain ⟨rfl, rfl⟩ := Prod.mk.inj (Option.some.inj h)
        have hmark : c = mark := Decidable.of_not_not hc
        exact ⟨by rw [hmark]; rfl, fun heq => hd (Option.some.inj heq)⟩
  · rintro ⟨rfl, hrest⟩
    exact readDoubled_doubled mark content hrest

/-- A doubled text between two marks is read up to the second one. -/
theorem readQuoted_doubled (mark : Char) (s : Text) {rest : Text} (h : rest.head? ≠ some mark) :
    readQuoted mark (mark :: (doubled mark s ++ mark :: rest)) = some (s, rest) := by
  rw [readQuoted, if_pos rfl, readDoubled_doubled mark s h]

end Sql.Literal

/-- Texts that are equal when they are doubled are equal. -/
theorem doubled_injective (mark : Char) : Function.Injective (doubled mark) := by
  intro s t h
  have hread (text : Text) :
      Literal.readDoubled mark (doubled mark text ++ [mark]) = some (text, []) :=
    Literal.readDoubled_doubled mark text nofun
  have hs := hread s
  rw [h, hread t] at hs
  exact (Prod.mk.inj (Option.some.inj hs)).1.symm

/-! ## The standard escaper -/

/-- The escaped form of one character for quotes of either kind: a quote or a backtick twice, and
    otherwise the character. -/
def Dialect.escapeStandardChar (c : Char) : Text :=
  if c = '\'' ∨ c = '\x60' then [c, c] else [c]

/-- **ONE PASS**: the passes for quotes and for backticks are one from left to right. -/
theorem escapeStandard_eq (s : Text) : escapeStandard s = s.flatMap escapeStandardChar := by
  induction s with
  | nil => rfl
  | cons c s ih =>
      rw [List.flatMap_cons, ← ih, escapeStandard, escapeStandard, escapeStandardChar]
      by_cases hquote : c = '\''
      · subst hquote
        rw [doubled_cons_self, doubled_cons_of_ne (by decide), doubled_cons_of_ne (by decide),
          if_pos (Or.inl rfl)]
        rfl
      · by_cases hbacktick : c = '\x60'
        · subst hbacktick
          rw [doubled_cons_of_ne (by decide), doubled_cons_self, if_pos (Or.inr rfl)]
          rfl
        · rw [doubled_cons_of_ne hquote, doubled_cons_of_ne hbacktick,
            if_neg (not_or_intro hquote hbacktick)]
          rfl

/-- An escaped string between quotes is read as the string with its backticks doubled. -/
theorem readQuoted_single (s : Text) {rest : Text} (h : rest.head? ≠ some '\'') :
    Literal.readQuoted '\'' (Quote.single (escapeStandard s) ++ rest) =
      some (doubled '\x60' s, rest) := by
  have hread := Literal.readQuoted_doubled '\'' (doubled '\x60' s) h
  rw [doubled_comm (by decide)] at hread
  rw [Quote.single, List.cons_append, List.append_assoc]
  exact hread

/-- An escaped string between backticks is read as the string with its quotes doubled. -/
theorem readQuoted_backtick (s : Text) {rest : Text} (h : rest.head? ≠ some '\x60') :
    Literal.readQuoted '\x60' (Quote.backtick (escapeStandard s) ++ rest) =
      some (doubled '\'' s, rest) := by
  rw [Quote.backtick, List.cons_append, List.append_assoc]
  exact Literal.readQuoted_doubled '\x60' (doubled '\'' s) h

/-- **BOTH KINDS OF QUOTES**: the standard escaper is one pass that doubles quotes and backticks, it
    loses nothing, and a reader of either kind stops at the mark that was put behind its output,
    unless another one follows. -/
theorem escapeStandard_quoted :
    (∀ s, escapeStandard s = s.flatMap escapeStandardChar) ∧
    Function.Injective escapeStandard ∧
    ∀ s rest : Text,
      (rest.head? ≠ some '\'' →
        Literal.readQuoted '\'' (Quote.single (escapeStandard s) ++ rest) =
          some (doubled '\x60' s, rest)) ∧
      (rest.head? ≠ some '\x60' →
        Literal.readQuoted '\x60' (Quote.backtick (escapeStandard s) ++ rest) =
          some (doubled '\'' s, rest)) := by
  refine ⟨escapeStandard_eq, ?_, fun s rest => ⟨readQuoted_single s, readQuoted_backtick s⟩⟩
  intro s t h
  exact doubled_injective '\'' (doubled_injective '\x60' h)

/-- Runs of both marks at both ends, with the other mark right behind. -/
theorem escapeStandard_quoted_ends :
    Literal.readQuoted '\''
        (Quote.single (escapeStandard "''\x60a\x60'".toList) ++ "\x60 AS x".toList) =
      some (doubled '\x60' "''\x60a\x60'".toList, "\x60 AS x".toList) ∧
    Literal.readQuoted '\x60'
        (Quote.backtick (escapeStandard "''\x60a\x60'".toList) ++ "' AS x".toList) =
      some (doubled '\'' "''\x60a\x60'".toList, "' AS x".toList) :=
  ⟨(escapeStandard_quoted.2.2 _ _).1 (by decide), (escapeStandard_quoted.2.2 _ _).2 (by decide)⟩

end SqlTemplate
