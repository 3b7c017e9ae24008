import SqlTemplate.Proofs.ReadBack

/-!
# Standard strings — a string literal denotes its string with the backticks doubled

The standard escaper serves literals and identifiers alike, so it doubles backticks in a literal
too, where one backtick is one character. The reader of a literal takes back the doubled quotes and
leaves the doubled backticks: a string without backticks is read as it was given, and every other
one is read as another string (`not_standard_strings_denote`).

* `entryText_readsAs_standard` — a written entry is one literal, which denotes the entry with its
  backticks doubled, and so does the literal of an assignment (`assignmentText_standard`);
* **`standard_strings_read_back`** — this is what becomes of a lone string, of the strings of a list
  and of those of a map.
-/

namespace SqlTemplate

open Dialect Rendering Sql

/-- A value with its text changed, if it is a string. -/
def Value.mapString (f : Text → Text) : Value → Value
  | .string s => .string (f s)
  | value => value

/-- A literal stands for a value in which backticks are doubled, if it is a string. -/
def Sql.Literal.DenotesDoubled (literal : Literal) (value : Value) : Prop :=
  literal.Denotes (value.mapString (doubled '\x60'))

/-! ## Entries and assignments -/

/-- A written entry that is no string does not begin with a quote. -/
theorem head?_ne_quote_of_ne_string {value : Value} (h : ∀ s, value ≠ .string s)
    {stringText : Text → Text} {written : Text}
    (hwritten : entryText stringText value = .ok written) (rest : Text) :
    (written ++ rest).head? ≠ some '\'' := by
  rcases entryText_eq_ok hwritten with rfl | hnumber | ⟨s, hs, -⟩
  · exact fun heq => absurd (Option.some.inj heq) (by decide)
  · cases written with
    | nil => exact absurd rfl hnumber.ne_nil
    | cons c written =>
        intro heq
        have hc : Numeral.isNumeric c = true := hnumber.isNumeric List.mem_cons_self
        exact absurd (Option.some.inj heq ▸ hc) (by decide)
  · exact absurd hs (h s)

/-- A written string is read as the string with its backticks doubled. -/
theorem readStandard?_single (s : Text) {rest : Text} (h : rest.head? ≠ some '\'') :
    Literal.readStandard? (Quote.single (escapeStandard s) ++ rest) =
      some (.string (doubled '\x60' s), rest) := by
  have hhead : (Quote.single (escapeStandard s) ++ rest).head? = some '\'' := rfl
  rw [Literal.readStandard?, if_pos hhead, readQuoted_single s h]
  rfl

/-- **ENTRIES**: a written entry is one literal, which denotes it with its backticks doubled. -/
theorem entryText_readsAs_standard {value : Value} (h : value.entryFault? = none) :
    ∃ written, entryText (fun s => Quote.single (escapeStandard s)) value = .ok written ∧
      Row.ReadsAs Literal.readStandard? Literal.DenotesDoubled value written := by
  by_cases hstring : ∃ s, value = .string s
  · obtain ⟨s, rfl⟩ := hstring
    refine ⟨Quote.single (escapeStandard s), rfl, nofun, fun rest hrest => ?_⟩
    exact ⟨_, readStandard?_single s (hrest.head?_ne (by decide)), rfl⟩
  · -- the other entries are written and read as in the MySQL dialect
    have hne : ∀ s, value ≠ .string s := fun s hs => hstring ⟨s, hs⟩
    obtain ⟨written, hwritten, hreads⟩ := entryText_readsAs h
    refine ⟨written, ?_, hreads.ne_nil, fun rest hrest => ?_⟩
    · rw [← hwritten]
      exact entryText_congr fun s hs => absurd hs (hne s)
    · obtain ⟨literal, hread, hdenotes⟩ := hreads.read rest hrest
      have hsame : value.mapString (doubled '\x60') = value := by
        cases value with
        | string s => exact absurd rfl (hne s)
        | _ => rfl
      refine ⟨literal, ?_, ?_⟩
      · rw [Literal.readStandard?, if_neg (head?_ne_quote_of_ne_string hne hwritten rest), hread]
      · rw [Literal.DenotesDoubled, hsame]
        exact hdenotes

/-- An assignment is written as its name, whatever that is, and a literal that denotes its value
    with the backticks doubled. -/
def Sql.Row.AssignsDoubled (field : Text × Value) (entry : Text) : Prop :=
  ∃ value, entry = Quote.backtick field.1 ++ " = ".toList ++ value ∧
    Row.ReadsAs Literal.readStandard? Literal.DenotesDoubled field.2 value

/-- **ASSIGNMENTS**: the value of a written assignment is such a literal. -/
theorem assignmentText_standard {field : Text × Value} (h : field.2.entryFault? = none) :
    ∃ entry, assignmentText (fun s => Quote.single (escapeStandard s)) field = .ok entry ∧
      Row.AssignsDoubled field entry := by
  obtain ⟨value, hvalue, hreads⟩ := entryText_readsAs_standard h
  refine ⟨Quote.backtick field.1 ++ " = ".toList ++ value, ?_, value, rfl, hreads⟩
  rw [assignmentText, hvalue]
  rfl

/-! ## Parameters -/

/-- **STRINGS READ BACK** in the standard dialect with their backticks doubled, and as they are
    exactly if they hold none: a lone string in its template, the strings of a list of values, and
    the strings assigned to the names of a map. -/
theorem standard_strings_read_back :
    (∀ s, Literal.readQuoted '\'' (Quote.single (escapeStandard s)) =
        some (doubled '\x60' s, []) ∧
      (doubled '\x60' s = s ↔ '\x60' ∉ s)) ∧
    (∀ s template before after : Text,
      (Block.unwrap template).splitFirst? ['?'] = some (before, after) →
      compile escapeStandard template [.string s] =
          .ok (before ++ (Quote.single (escapeStandard s) ++ after)) ∧
        (after.head? ≠ some '\'' →
          Literal.readQuoted '\'' (Quote.single (escapeStandard s) ++ after) =
            some (doubled '\x60' s, after))) ∧
    (∀ items : List Value, (items = [] ∨ ∃ n rest, items = .int n :: rest) →
      (∀ item ∈ items, item.entryFault? = none) →
      ∃ written literals,
        (∀ count, (Value.list items).WrittenAs escapeStandard count .values written) ∧
        (∀ template before after : Text,
          (Block.unwrap template).splitFirst? ['?', 'a'] = some (before, after) →
          compile escapeStandard template [.list items] = .ok (before ++ (written ++ after))) ∧
        Row.read? Literal.readStandard? written = some literals ∧
        List.Forall₂ Literal.DenotesDoubled literals items) ∧
    ∀ fields : List (Text × Value), (∀ field ∈ fields, field.2.entryFault? = none) →
      ∃ entries,
        (∀ count,
          (Value.map fields).WrittenAs escapeStandard count .values (commaSeparated entries)) ∧
        (∀ template before after : Text,
          (Block.unwrap template).splitFirst? ['?', 'a'] = some (before, after) →
          compile escapeStandard template [.map fields] =
            .ok (before ++ (commaSeparated entries ++ after))) ∧
        List.Forall₂ Row.AssignsDoubled fields entries := by
  refine ⟨fun s => ⟨?_, doubled_eq_self_iff⟩, ?_, ?_, ?_⟩
  · have hread : Literal.readQuoted '\'' (Quote.single (escapeStandard s) ++ []) =
        some (doubled '\x60' s, []) := readQuoted_single s nofun
    rwa [List.append_nil] at hread
  · intro s template before after hcut
    refine ⟨?_, readQuoted_single s⟩
    exact compile_of_writtenAs (Value.writtenAs_of_text rfl rfl) hcut
  · intro items hvalues hitems
    obtain ⟨written, literals, htext, hread, hdenotes⟩ :=
      Row.read_back fun item hitem => entryText_readsAs_standard (hitems item hitem)
    have hrole (count : Nat) : Param.classify? count (.list items) = some (.values items) := by
      rcases hvalues with rfl | ⟨n, rest, rfl⟩
      · rfl
      · rfl
    have hwritten (count : Nat) :
        (Value.list items).WrittenAs escapeStandard count .values written :=
      Value.writtenAs_of_text (hrole count) htext
    refine ⟨written, literals, hwritten, ?_, hread, hdenotes⟩
    intro template before after hcut
    exact compile_of_writtenAs (hwritten 1) hcut
  · intro fields hfields
    obtain ⟨entries, hentries, hassigns⟩ :=
      exists_mapM_eq_ok fun field hfield => assignmentText_standard (hfields field hfield)
    have htext : (Param.assignments fields).text escapeStandard = .ok (commaSeparated entries) := by
      rw [Param.text, hentries]
      rfl
    have hwritten (count : Nat) :
        (Value.map fields).WrittenAs escapeStandard count .values (commaSeparated entries) :=
      Value.writtenAs_of_text rfl htext
    refine ⟨entries, hwritten, ?_, hassigns⟩
    intro template before after hcut
    exact compile_of_writtenAs (hwritten 1) hcut

/-- Strings that look like what stands behind them, and a name that holds a backtick. -/
theorem standard_strings_read_back_lookalike :
    (compile escapeStandard "\x7ba\x7d = ?d".toList [.string "'\x60".toList] =
        .ok ("a = ".toList ++ (Quote.single (escapeStandard "'\x60".toList) ++ "d".toList)) ∧
      ("d".toList.head? ≠ some '\'' →
        Literal.readQuoted '\'' (Quote.single (escapeStandard "'\x60".toList) ++ "d".toList) =
          some (doubled '\x60' "'\x60".toList, "d".toList))) ∧
    (∃ written literals,
      (∀ count, (Value.list [.int 1, .string "', '\x60".toList]).WrittenAs escapeStandard count
        .values written) ∧
      (∀ template before after : Text,
        (Block.unwrap template).splitFirst? ['?', 'a'] = some (before, after) →
        compile escapeStandard template [.list [.int 1, .string "', '\x60".toList]] =
          .ok (before ++ (written ++ after))) ∧
      Row.read? Literal.readStandard? written = some literals ∧
      List.Forall₂ Literal.DenotesDoubled literals [.int 1, .string "', '\x60".toList]) ∧
    ∃ entries,
      (∀ count, (Value.map [("a\x60".toList, .string "', \x60".toList)]).WrittenAs escapeStandard
        count .values (commaSeparated entries)) ∧
      (∀ template before after : Text,
        (Block.unwrap template).splitFirst? ['?', 'a'] = some (before, after) →
        compile escapeStandard template [.map [("a\x60".toList, .string "', \x60".toList)]] =
          .ok (before ++ (commaSeparated entries ++ after))) ∧
      List.Forall₂ Row.AssignsDoubled [("a\x60".toList, .string "', \x60".toList)] entries :=
  ⟨standard_strings_read_back.2.1 _ _ _ _ (by decide),
    standard_strings_read_back.2.2.1 _ (Or.inr ⟨1, _, rfl⟩) (by decide),
    standard_strings_read_back.2.2.2 _ (by decide)⟩

/-- A backtick in a literal is read as two. -/
theorem not_standard_strings_denote :
    ¬ ∀ s, Literal.readQuoted '\'' (Quote.single (escapeStandard s)) = some (s, []) := by
  intro h
  exact absurd (h ['\x60']) (by decide)

end SqlTemplate
