import SqlTemplate.Proofs.Filling
import SqlTemplate.Sql.Literal

/-!
# String literals — an escaped string is one MySQL literal that denotes it

The escaper never looks at more than one character, the reader looks ahead. They meet in
`escapeMysqlChar_eq`: an escaped character is either itself and means nothing to the reader, or a
backslash pair that the reader takes back to it. From there

* `readBackslashed_escapeMysql` — the reader of an escaped string stops at the closing quote and
  nowhere before, whatever backslashes and quotes the string holds;
* `not_mem_controls_single` — no control character that a server would trip over stands in it;
* **`compile_lone_string`** — a lone string takes the first question mark of its template, as a
  literal that reads back.
-/

namespace SqlTemplate

open Dialect Sql

/-! ## One character -/

/-- The control characters that an escaped string must not hold as they are. -/
def Sql.Literal.controls : List Char := ['\x00', '\n', '\r', '\x1a']

/-- An escaped character is itself, or a backslash pair that stands for it. -/
theorem escapeMysqlChar_eq (c : Char) :
    (escapeMysqlChar c = [c] ∧ c ≠ '\\' ∧ c ≠ '\'' ∧ c ∉ Literal.controls) ∨
      ∃ d, escapeMysqlChar c = ['\\', d] ∧ Literal.unescaped d = c ∧ d ∉ Literal.controls := by
  unfold escapeMysqlChar
  split
  · exact Or.inr ⟨'0', rfl, rfl, by decide⟩
  · exact Or.inr ⟨'n', rfl, rfl, by decide⟩
  · exact Or.inr ⟨'r', rfl, rfl, by decide⟩
  · exact Or.inr ⟨'\\', rfl, rfl, by decide⟩
  · exact Or.inr ⟨'\'', rfl, rfl, by decide⟩
  · exact Or.inr ⟨'"', rfl, rfl, by decide⟩
  · exact Or.inr ⟨'Z', rfl, rfl, by decide⟩
  · next hnul hlf hcr hbackslash hquote _ hz =>
    refine Or.inl ⟨rfl, hbackslash, hquote, ?_⟩
    simp only [Literal.controls, List.mem_cons, List.not_mem_nil, or_false, not_or]
    exact ⟨hnul, hlf, hcr, hz⟩

/-- A mark that stands for itself behind a backslash is in the escaped form of no other character. -/
theorem eq_of_mem_escapeMysqlChar {mark c : Char} (hbackslash : mark ≠ '\\')
    (hmark : Literal.unescaped mark = mark) (h : mark ∈ escapeMysqlChar c) : c = mark := by
  rcases escapeMysqlChar_eq c with ⟨heq, -, -, -⟩ | ⟨d, heq, hd, -⟩
  · rw [heq] at h
    exact (List.mem_singleton.mp h).symm
  · rw [heq] at h
    rcases List.mem_cons.mp h with hfirst | h
    · exact absurd hfirst hbackslash
    · rw [← hd, ← List.mem_singleton.mp h, hmark]

/-! ## The reader -/

/-- A character that is neither a backslash nor a quote stands for itself. -/
theorem readBackslashed_cons {c : Char} (hbackslash : c ≠ '\\') (hquote : c ≠ '\'') (text : Text) :
    Literal.readBackslashed (c :: text) =
      (Literal.readBackslashed text).map (Literal.following c) := by
  rw [Literal.readBackslashed.eq_def]
  split
  · next heq => exact nomatch heq
  · next heq => exact absurd (List.cons.inj heq).1 hbackslash
  · next heq => exact absurd (List.cons.inj heq).1 hquote
  · next heq => exact absurd (List.cons.inj heq).1 hquote
  · next heq =>
    obtain ⟨rfl, rfl⟩ := List.cons.inj heq
    rfl

/-- A quote ends a string unless another one follows. -/
theorem readBackslashed_quote {rest : Text} (h : rest.head? ≠ some '\'') :
    Literal.readBackslashed ('\'' :: rest) = some ([], rest) := by
  cases rest with
  | nil => rfl
  | cons c rest =>
      have hc : c ≠ '\'' := fun heq => h (congrArg some heq)
      rw [Literal.readBackslashed.eq_def]
      split
      · next heq => exact nomatch heq
      · next heq => exact absurd (List.cons.inj heq).1 (by decide)
      · next heq => exact absurd (List.cons.inj (List.cons.inj heq).2).1 hc
      · next heq => rw [(List.cons.inj heq).2]
      · next hquote heq => exact absurd (List.cons.inj heq).1.symm hquote

/-- **DECODING UNDOES ESCAPING**: an escaped string reads back to the string, up to its closing
    quote. -/
theorem readBackslashed_escapeMysql (s : Text) {rest : Text} (h : rest.head? ≠ some '\'') :
    Literal.readBackslashed (escapeMysql s ++ '\'' :: rest) = some (s, rest) := by
  induction s with
  | nil => exact readBackslashed_quote h
  | cons c s ih =>
      rw [escapeMysql, List.flatMap_cons, List.append_assoc, ← escapeMysql]
      rcases escapeMysqlChar_eq c with ⟨heq, hbackslash, hquote, -⟩ | ⟨d, heq, hd, -⟩
      · rw [heq, List.singleton_append, readBackslashed_cons hbackslash hquote, ih]
        rfl
      · rw [heq]
        show (Literal.readBackslashed (escapeMysql s ++ '\'' :: rest)).map
          (Literal.following (Literal.unescaped d)) = _
        rw [ih, hd]
        rfl

/-- An escaped string between quotes is one literal that denotes the string. -/
theorem readString_single (s : Text) {rest : Text} (h : rest.head? ≠ some '\'') :
    Literal.readString (Quote.single (escapeMysql s) ++ rest) = some (s, rest) := by
  have hread := readBackslashed_escapeMysql s h
  rw [Quote.single, List.cons_append, List.append_assoc]
  exact hread

/-- No control character stands in a literal as it is. -/
theorem not_mem_controls_single (s : Text) :
    ∀ c ∈ Quote.single (escapeMysql s), c ∉ Literal.controls := by
  intro c hc
  rcases List.mem_cons.mp hc with rfl | hc
  · decide
  · rcases List.mem_append.mp hc with hc | hc
    · obtain ⟨e, -, he⟩ := List.mem_flatMap.mp hc
      rcases escapeMysqlChar_eq e with ⟨heq, -, -, hcontrol⟩ | ⟨d, heq, -, hcontrol⟩
      · rw [heq, List.mem_singleton] at he
        rw [he]
        exact hcontrol
      · rw [heq] at he
        rcases List.mem_cons.mp he with rfl | he
        · decide
        · rw [List.mem_singleton.mp he]
          exact hcontrol
    · rw [List.mem_singleton.mp hc]
      decide

/-! ## A lone string in a template -/

/-- **A LONE STRING** takes the first question mark of its unwrapped template, as a literal that
    ends where it was written to end, denotes the string and holds no control characters. -/
theorem compile_lone_string {s template before after : Text} (hbefore : '?' ∉ before)
    (htemplate : Block.unwrap template = before ++ '?' :: after) :
    compile escapeMysql template [.string s] =
        .ok (before ++ (Quote.single (escapeMysql s) ++ after)) ∧
      (after.head? ≠ some '\'' →
        Literal.readString (Quote.single (escapeMysql s) ++ after) = some (s, after)) ∧
      ∀ c ∈ Quote.single (escapeMysql s), c ∉ Literal.controls := by
  refine ⟨?_, readString_single s, not_mem_controls_single s⟩
  have hput : Compilation.put (before ++ '?' :: after) (.generic, Quote.single (escapeMysql s)) =
      before ++ (Quote.single (escapeMysql s) ++ after) :=
    Compilation.put_of_found (Text.splitFirst?_mark hbefore after)
  refine (compile_eq_ok_iff (List.cons_ne_nil _ _)).mpr
    ⟨[(.generic, Quote.single (escapeMysql s))], rfl, ?_⟩
  rw [← hput, ← htemplate]
  rfl

/-- A backslash and a quote, in a block and where an integer was meant to stand. -/
theorem compile_lone_string_quotes :
    compile escapeMysql "{a = ?d}".toList [.string "\\'".toList] =
        .ok ("a = ".toList ++ (Quote.single (escapeMysql "\\'".toList) ++ "d".toList)) ∧
      ("d".toList.head? ≠ some '\'' → Literal.readString
        (Quote.single (escapeMysql "\\'".toList) ++ "d".toList) =
          some ("\\'".toList, "d".toList)) ∧
      ∀ c ∈ Quote.single (escapeMysql "\\'".toList), c ∉ Literal.controls :=
  compile_lone_string (by decide) (by decide)

end SqlTemplate
