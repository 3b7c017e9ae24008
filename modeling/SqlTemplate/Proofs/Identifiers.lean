import SqlTemplate.Proofs.ReadBack

/-!
# Identifiers — which strings stay inside their backticks

The strings of an identifier list are escaped and put between backticks, where a backtick is written
twice and a backslash means nothing. The standard escaper doubles backticks. The MySQL one leaves
them alone: a single backtick in a string ends the identifier, and what follows it is read as SQL.

* `readsAs_backtick` — an escaped string in which backticks stand doubled is read as one identifier,
  so `identifiers_read_back` — a row of them is read as a row;
* `doubled_of_readQuoted` — no other string is read so, not even where it stands alone;
* `escapeMysql_doubled` and `exists_doubled_of_escapeMysql` — MySQL escaping neither makes pairs of
  backticks nor breaks them up;
* **`identifiers_read_back_iff`** — lists are read back in the standard dialect whatever they hold,
  and in the MySQL dialect exactly if the backticks of their strings come in pairs.
-/

namespace SqlTemplate

open Dialect Rendering Sql

/-! ## One identifier -/

/-- A name stands for a string if it stands doubled in the escaped string. -/
def Sql.Row.Names (escape : Escaper) (name s : Text) : Prop :=
  escape s = doubled '\x60' name

/-- An escaped string in which backticks stand doubled is read as one identifier. -/
theorem readsAs_backtick {escape : Escaper} {s name : Text} (h : Row.Names escape name s) :
    Row.ReadsAs (Literal.readQuoted '\x60') (Row.Names escape) s (Quote.backtick (escape s)) := by
  refine ⟨nofun, fun rest hrest => ⟨name, ?_, h⟩⟩
  rw [h, Quote.backtick, List.cons_append, List.append_assoc]
  exact Literal.readQuoted_doubled '\x60' name (hrest.head?_ne (by decide))

/-- A text that is read as one identifier holds its backticks doubled. -/
theorem doubled_of_readQuoted {text name : Text}
    (h : Literal.readQuoted '\x60' (Quote.backtick text) = some (name, [])) :
    text = doubled '\x60' name := by
  rw [Quote.backtick, Literal.readQuoted, if_pos rfl] at h
  exact List.append_cancel_right (Literal.readDoubled_eq_some_iff.mp h).1

/-! ## Rows of identifiers -/

/-- A row of strings that are each read as one identifier is read as a row of as many. -/
theorem identifiers_read_back {escape : Escaper} {items : List Text}
    (h : ∀ s ∈ items, ∃ name, Row.Names escape name s) :
    ∃ written names,
      (Param.identifiers (items.map .string)).text escape = .ok written ∧
        Row.read? (Literal.readQuoted '\x60') written = some names ∧
        List.Forall₂ (Row.Names escape) names items := by
  have hitems : ∀ s ∈ items, ∃ written,
      entryText (fun s => Quote.backtick (escape s)) (.string s) = .ok written ∧
        Row.ReadsAs (Literal.readQuoted '\x60') (Row.Names escape) s written := by
    intro s hs
    obtain ⟨name, hname⟩ := h s hs
    exact ⟨Quote.backtick (escape s), rfl, readsAs_backtick hname⟩
  obtain ⟨written, names, hwritten, hread, hnames⟩ := Row.read_back hitems
  refine ⟨written, names, ?_, hread, hnames⟩
  rw [← hwritten, Param.text, List.mapM_map]
  rfl

/-! ## Backticks under MySQL escaping -/

/-- Only the escaped form of a backtick holds one. -/
theorem backtick_not_mem_escapeMysqlChar {c : Char} (h : c ≠ '\x60') :
    '\x60' ∉ escapeMysqlChar c :=
  fun hmem => h (eq_of_mem_escapeMysqlChar (by decide) rfl hmem)

theorem escapeMysql_cons (c : Char) (s : Text) :
    escapeMysql (c :: s) = escapeMysqlChar c ++ escapeMysql s :=
  List.flatMap_cons

/-- Backticks that stand doubled in a string stand doubled in its escaped form. -/
theorem escapeMysql_doubled (s : Text) :
    escapeMysql (doubled '\x60' s) = doubled '\x60' (escapeMysql s) := by
  induction s with
  | nil => rfl
  | cons c s ih =>
      by_cases hc : c = '\x60'
      · subst hc
        rw [doubled_cons_self, escapeMysql_cons, escapeMysql_cons, ih, escapeMysql_cons,
          doubled_append]
        rfl
      · rw [doubled_cons_of_ne hc, escapeMysql_cons, ih, escapeMysql_cons, doubled_append,
          doubled_of_not_mem (backtick_not_mem_escapeMysqlChar hc)]

/-- Backticks that do not stand doubled in a string do not in its escaped form either. -/
theorem exists_doubled_of_escapeMysql {s name : Text} (h : escapeMysql s = doubled '\x60' name) :
    ∃ t, s = doubled '\x60' t := by
  -- the cases are those of a reader, which takes backticks in pairs
  induction s using Literal.readDoubled.induct '\x60' generalizing name with
  | case1 => exact ⟨[], rfl⟩
  | case2 =>
      obtain ⟨rest, hrest⟩ := cons_eq_doubled h
      exact nomatch hrest
  | case3 c hc => exact ⟨[c], (doubled_cons_of_ne hc []).symm⟩
  | case4 c d text hc ih =>
      rw [escapeMysql_cons] at h
      obtain ⟨rest, hrest⟩ := append_eq_doubled (backtick_not_mem_escapeMysqlChar hc) h
      obtain ⟨t, ht⟩ := ih hrest
      exact ⟨c :: t, by rw [doubled_cons_of_ne hc, ht]⟩
  | case5 c text hc ih =>
      have hmark : c = '\x60' := Decidable.of_not_not hc
      subst hmark
      obtain ⟨rest, hrest⟩ := cons_eq_doubled h
      obtain ⟨t, ht⟩ := ih (List.cons.inj hrest).2
      exact ⟨'\x60' :: t, by rw [doubled_cons_self, ht]⟩
  | case6 c d text hc hd =>
      have hmark : c = '\x60' := Decidable.of_not_not hc
      subst hmark
      obtain ⟨rest, hrest⟩ := cons_eq_doubled h
      have hnext : escapeMysqlChar d ++ escapeMysql text = '\x60' :: doubled '\x60' rest := hrest
      rcases escapeMysqlChar_eq d with ⟨heq, -⟩ | ⟨e, heq, -⟩
      · rw [heq] at hnext
        exact absurd (List.cons.inj hnext).1 hd
      · rw [heq] at hnext
        exact absurd (List.cons.inj hnext).1 (by decide)

/-! ## Both dialects -/

/-- A list of strings that is not empty holds identifiers. -/
theorem classify?_strings {items : List Text} (h : items ≠ []) (count : Nat) :
    Param.classify? count (.list (items.map .string)) =
      some (.identifiers (items.map .string)) := by
  cases items with
  | nil => exact absurd rfl h
  | cons s items => rfl

/-- In the standard dialect every string has a name that stands for it, and in the MySQL dialect
    every string in which backticks stand doubled. -/
theorem exists_names {dialect : Dialect} {s : Text}
    (h : dialect = .standard ∨ ∃ t, s = doubled '\x60' t) :
    ∃ name, Row.Names dialect.escape name s := by
  cases dialect with
  | standard => exact ⟨doubled '\'' s, rfl⟩
  | mysql =>
      rcases h with hdialect | ⟨t, rfl⟩
      · exact nomatch hdialect
      · exact ⟨escapeMysql t, escapeMysql_doubled t⟩

/-- A string that is read as one identifier where it is the only one of a list has such a name. -/
theorem exists_names_of_writtenAs {escape : Escaper} {count : Nat} {s written : Text}
    {names : List Text}
    (hwritten : (Value.list [.string s]).WrittenAs escape count .identifiers written)
    (hread : Row.read? (Literal.readQuoted '\x60') written = some names)
    (hlength : names.length = 1) : ∃ name, Row.Names escape name s := by
  obtain ⟨param, hrole, hfilling⟩ := hwritten
  cases hrole
  have htext : written = commaSeparated [Quote.backtick (escape s)] :=
    (Except.ok.inj (Compilation.filling_eq_ok_iff.mp hfilling).1).symm
  obtain ⟨name, rfl⟩ := List.length_eq_one_iff.mp hlength
  rw [htext, commaSeparated, Text.join_singleton] at hread
  exact ⟨name, doubled_of_readQuoted (Row.items?_eq_singleton hread)⟩

/-- **IDENTIFIERS READ BACK**: the lists of some strings, of any length, are written as rows of as
    many identifiers exactly if the dialect is the standard one, or in each of the strings the
    backticks stand doubled. The empty list is left out, as it is a list of values. -/
theorem identifiers_read_back_iff (dialect : Dialect) (allowed : Text → Prop) :
    (∀ (count : Nat) (items : List Text), items ≠ [] → (∀ s ∈ items, allowed s) →
      ∃ written names,
        (Value.list (items.map .string)).WrittenAs dialect.escape count .identifiers written ∧
          Row.read? (Literal.readQuoted '\x60') written = some names ∧
          names.length = items.length) ↔
      dialect = .standard ∨ ∀ s, allowed s → ∃ t, s = doubled '\x60' t := by
  constructor
  · intro h
    cases dialect with
    | standard => exact Or.inl rfl
    | mysql =>
        refine Or.inr fun s hs => ?_
        obtain ⟨written, names, hwritten, hread, hlength⟩ :=
          h 1 [s] (List.cons_ne_nil _ _) (List.forall_mem_singleton.mpr hs)
        obtain ⟨name, hname⟩ := exists_names_of_writtenAs hwritten hread hlength
        exact exists_doubled_of_escapeMysql hname
  · intro h count items hne hitems
    have hnames : ∀ s ∈ items, ∃ name, Row.Names dialect.escape name s := by
      intro s hs
      exact exists_names (h.imp_right fun hall => hall s (hitems s hs))
    obtain ⟨written, names, htext, hread, hrow⟩ := identifiers_read_back hnames
    have hwritten := Value.writtenAs_of_text (classify?_strings hne count) htext
    exact ⟨written, names, hwritten, hread, hrow.length_eq⟩

/-- A single backtick ends its identifier in the MySQL dialect. -/
theorem not_identifiers_read_back :
    compile (Dialect.escape .mysql) "?#".toList [.list [.string "a\x60b".toList]] =
        .ok "\x60a\x60b\x60".toList ∧
      Row.read? (Literal.readQuoted '\x60') "\x60a\x60b\x60".toList = none := by
  refine ⟨by decide, ?_⟩
  show Row.items? (Literal.readQuoted '\x60') "\x60a\x60b\x60".toList = none
  rw [Row.items?]
  rfl

end SqlTemplate
