import SqlTemplate.Proofs.Lexemes
import SqlTemplate.Proofs.StringLiteral

/-!
# Variants — parameters that differ in strings only a literal can hold

Strings in a map and behind the first entry of a list of values are written as literals, whatever
else the call holds. `Value.Variant` relates parameters that are equal but for such strings, where
all other names and strings are free of quotes, backticks and backslashes.

* `alike_single` — any two strings read alike when they are written as literals;
* `alike_of_mapM_eq_ok` — rows read alike if their entries do;
* **`Value.Variant.alike`** — variants fill the same placeholder with texts that read alike.
-/

namespace SqlTemplate

open Dialect Rendering Sql

/-- The characters that can begin or end quoted text, or change what ends it. -/
def Text.quoting : List Char := ['\'', '"', '\x60', '\\']

/-- A text without quotes, backticks and backslashes. -/
def Text.Plain (text : Text) : Prop := ∀ c ∈ text, c ∉ quoting

instance (text : Text) : Decidable text.Plain :=
  List.decidableBAll (· ∉ Text.quoting) text

/-- A plain text has no single quotes. -/
theorem Text.Plain.no_quote {text : Text} (h : text.Plain) : '\'' ∉ text :=
  fun hmem => h '\'' hmem List.mem_cons_self

namespace Value

/-- Entries of a list or map that are equal or both strings. -/
inductive EntryVariant : Value → Value → Prop where
  | same (value : Value) : EntryVariant value value
  | string (s t : Text) : EntryVariant (.string s) (.string t)

/-- Parameters that are equal but for the contents of strings that are values of maps or stand
    behind the integer that a list begins with; all their other strings and all names are plain. -/
inductive Variant : Value → Value → Prop where
  | null : Variant .null .null
  | bool (b : Bool) : Variant (.bool b) (.bool b)
  | int (n : Int64) : Variant (.int n) (.int n)
  | float (x : Binary64) : Variant (.float x) (.float x)
  | string {s : Text} (h : s.Plain) : Variant (.string s) (.string s)
  | list {items : List Value} (h : ∀ s, .string s ∈ items → s.Plain) :
      Variant (.list items) (.list items)
  | values {n : Int64} {items others : List Value} (h : List.Forall₂ EntryVariant items others) :
      Variant (.list (.int n :: items)) (.list (.int n :: others))
  | map {fields others : List (Text × Value)}
      (h : List.Forall₂ (fun field other =>
        field.1 = other.1 ∧ field.1.Plain ∧ EntryVariant field.2 other.2) fields others) :
      Variant (.map fields) (.map others)
  | skip : Variant .skip .skip

end Value

/-! ## Written strings and rows -/

/-- Any two strings read alike when they are written as literals. -/
theorem alike_single (s t : Text) :
    Alike (Quote.single (escapeMysql s)) (Quote.single (escapeMysql t)) := by
  have hwhole (s : Text) : lexemes (Quote.single (escapeMysql s)) = [.string] ∧
      (Place.after .outside (Quote.single (escapeMysql s))).isClosed = true := by
    have hread : Literal.readString (Quote.single (escapeMysql s) ++ []) = some (s, []) :=
      readString_single s nofun
    rw [List.append_nil] at hread
    obtain ⟨hshown, hafter⟩ := lexemes_of_readString hread
    rw [hafter]
    exact ⟨hshown, rfl⟩
  exact ⟨(hwhole s).1.trans (hwhole t).1.symm, (hwhole s).2, (hwhole t).2⟩

/-- Rows of texts read alike if the texts do. -/
theorem alike_commaSeparated {entries others : List Text} (h : List.Forall₂ Alike entries others) :
    Alike (commaSeparated entries) (commaSeparated others) := by
  induction h with
  | nil => exact alike_self (by decide)
  | @cons entry other entries others hfirst hothers ih =>
      cases hothers with
      | nil =>
          rw [commaSeparated, commaSeparated, Text.join_singleton, Text.join_singleton]
          exact hfirst
      | cons hnext hrest =>
          rw [commaSeparated, commaSeparated, Text.join_cons_cons, Text.join_cons_cons]
          exact hfirst.append ((alike_self (by decide)).append ih)

/-- Rows read alike if related items are written as texts that do. -/
theorem alike_of_mapM_eq_ok {α : Type} {write : α → Except Fault Text} {R : α → α → Prop}
    (hstep : ∀ item other entry another, R item other → write item = .ok entry →
      write other = .ok another → Alike entry another)
    {items others : List α} {written another : Text} (h : List.Forall₂ R items others)
    (hitems : commaSeparated <$> items.mapM write = .ok written)
    (hothers : commaSeparated <$> others.mapM write = .ok another) : Alike written another := by
  obtain ⟨entries, hentries, rfl⟩ := commaSeparated_eq_ok hitems
  obtain ⟨entries', hentries', rfl⟩ := commaSeparated_eq_ok hothers
  exact alike_commaSeparated (forall₂_of_mapM_eq_ok hstep h hentries hentries')

/-! ## Written entries -/

/-- A number has no quotes. -/
theorem Numeral.IsPositional.no_quote {numeral : Text} (h : Numeral.IsPositional numeral) :
    '\'' ∉ numeral :=
  fun hmem => absurd (h.isNumeric hmem) (by decide)

/-- Escaping puts no quote into a text without one. -/
theorem no_quote_escapeMysql {s : Text} (h : '\'' ∉ s) : '\'' ∉ escapeMysql s := by
  intro hmem
  obtain ⟨c, hc, hquote⟩ := List.mem_flatMap.mp hmem
  -- the only escaped form with a quote is that of the quote
  rw [eq_of_mem_escapeMysqlChar (by decide) rfl hquote] at hc
  exact h hc

/-- A name without quotes reads like itself between backticks. -/
theorem alike_backtick {name : Text} (h : '\'' ∉ name) :
    Alike (Quote.backtick name) (Quote.backtick name) := by
  refine alike_self fun hmem => ?_
  rcases List.mem_cons.mp hmem with hopen | hmem
  · exact absurd hopen (by decide)
  · rcases List.mem_append.mp hmem with hname | hclose
    · exact h hname
    · exact absurd (List.mem_singleton.mp hclose) (by decide)

open Value in
/-- Variants of an entry read alike if strings do as the caller writes them. -/
theorem alike_entryText {stringText : Text → Text} {value other : Value} {entry another : Text}
    (h : EntryVariant value other)
    (hstring : ∀ s t, value = .string s → other = .string t → Alike (stringText s) (stringText t))
    (hentry : entryText stringText value = .ok entry)
    (hother : entryText stringText other = .ok another) : Alike entry another := by
  cases h with
  | same =>
      rw [hentry] at hother
      rw [← Except.ok.inj hother]
      rcases entryText_eq_ok hentry with rfl | hnumber | ⟨s, hs, rfl⟩
      · exact alike_self (by decide)
      · exact alike_self hnumber.no_quote
      · exact hstring s s hs hs
  | string s t =>
      rw [← Except.ok.inj hentry, ← Except.ok.inj hother]
      exact hstring s t rfl rfl

/-- An entry that is no string reads like itself. -/
theorem alike_of_ne_string (value : Value) {entry another : Text}
    (hvalue : ∀ s, value ≠ .string s) (hentry : entryText id value = .ok entry)
    (hother : entryText id value = .ok another) : Alike entry another :=
  alike_entryText (.same value) (fun s _ hs _ => absurd hs (hvalue s)) hentry hother

/-- Variants of an entry read alike where strings are written as literals. -/
theorem alike_valueText {value other : Value} {entry another : Text}
    (h : Value.EntryVariant value other)
    (hentry : entryText (fun s => Quote.single (escapeMysql s)) value = .ok entry)
    (hother : entryText (fun s => Quote.single (escapeMysql s)) other = .ok another) :
    Alike entry another :=
  alike_entryText h (fun s t _ _ => alike_single s t) hentry hother

/-- Variants of a field read alike as assignments. -/
theorem alike_assignmentText {field other : Text × Value} {entry another : Text}
    (hname : field.1 = other.1) (hplain : field.1.Plain)
    (h : Value.EntryVariant field.2 other.2)
    (hentry : assignmentText (fun s => Quote.single (escapeMysql s)) field = .ok entry)
    (hother : assignmentText (fun s => Quote.single (escapeMysql s)) other = .ok another) :
    Alike entry another := by
  obtain ⟨value, hvalue, rfl⟩ := assignmentText_eq_ok hentry
  obtain ⟨value', hvalue', rfl⟩ := assignmentText_eq_ok hother
  rw [← hname]
  have hquoted : Alike (Quote.backtick field.1) (Quote.backtick field.1) :=
    alike_backtick hplain.no_quote
  have hequals : Alike " = ".toList " = ".toList := alike_self (by decide)
  exact (hquoted.append hequals).append (alike_valueText h hvalue hvalue')

/-! ## Written parameters -/

/-- A list whose strings are plain reads like itself, as values and as identifiers. -/
theorem alike_items {items : List Value} (h : ∀ s, .string s ∈ items → s.Plain)
    {written another : Text} (hwritten : (Param.ofItems items).text escapeMysql = .ok written)
    (hanother : (Param.ofItems items).text escapeMysql = .ok another) :
    Alike written another := by
  have hsame : List.Forall₂ (fun item other => item = other ∧ item ∈ items) items items :=
    List.forall₂_same.mpr fun item hitem => ⟨rfl, hitem⟩
  rcases Param.ofItems_eq items with heq | heq
  · rw [heq] at hwritten hanother
    refine alike_of_mapM_eq_ok ?_ hsame hwritten hanother
    rintro item _ entry another ⟨rfl, -⟩ hentry hother
    exact alike_valueText (.same item) hentry hother
  · rw [heq] at hwritten hanother
    refine alike_of_mapM_eq_ok ?_ hsame hwritten hanother
    rintro item _ entry another ⟨rfl, hitem⟩ hentry hother
    refine alike_entryText (.same item) (fun s t hs ht => ?_) hentry hother
    rw [hs] at ht hitem
    rw [← Value.string.inj ht]
    exact alike_backtick (no_quote_escapeMysql (h s hitem).no_quote)

/-- **VARIANTS READ ALIKE**: variants of a parameter fill the same placeholder with texts that read
    alike. -/
theorem Value.Variant.alike {count : Nat} {value other : Value} {param another : Param}
    {written written' : Text} (h : Variant value other)
    (hparam : Param.classify? count value = some param)
    (hother : Param.classify? count other = some another)
    (hwritten : param.text escapeMysql = .ok written)
    (hwritten' : another.text escapeMysql = .ok written') :
    param.placeholder = another.placeholder ∧ Alike written written' := by
  cases h with
  | null =>
      cases hparam
      cases hother
      exact ⟨rfl, alike_of_ne_string .null (fun _ => nofun) hwritten hwritten'⟩
  | bool b =>
      cases hparam
      cases hother
      exact ⟨rfl, alike_of_ne_string (.bool b) (fun _ => nofun) hwritten hwritten'⟩
  | int n =>
      cases hparam
      cases hother
      exact ⟨rfl, alike_of_ne_string (.int n) (fun _ => nofun) hwritten hwritten'⟩
  | float x =>
      cases hparam
      cases hother
      exact ⟨rfl, alike_of_ne_string (.float x) (fun _ => nofun) hwritten hwritten'⟩
  | @string s hplain =>
      by_cases hcount : 1 < count
      · have hrole : Param.classify? count (.string s) = some (.identifier s) :=
          congrArg some (if_pos hcount)
        rw [hrole] at hparam hother
        cases hparam
        cases hother
        cases hwritten
        cases hwritten'
        exact ⟨rfl, alike_backtick hplain.no_quote⟩
      · have hrole : Param.classify? count (.string s) = some (.literal s) :=
          congrArg some (if_neg hcount)
        rw [hrole] at hparam hother
        cases hparam
        cases hother
        cases hwritten
        cases hwritten'
        exact ⟨rfl, alike_single s s⟩
  | list hplain =>
      cases hparam
      cases hother
      exact ⟨rfl, alike_items hplain hwritten hwritten'⟩
  | @values n items others hothers =>
      cases hparam
      cases hother
      refine ⟨rfl, alike_of_mapM_eq_ok ?_ (.cons (.same (.int n)) hothers) hwritten hwritten'⟩
      exact fun _ _ _ _ h => alike_valueText h
  | map hfields =>
      cases hparam
      cases hother
      refine ⟨rfl, alike_of_mapM_eq_ok ?_ hfields hwritten hwritten'⟩
      rintro field other _ _ ⟨hname, hplain, hvalue⟩
      exact alike_assignmentText hname hplain hvalue
  | skip => exact nomatch hparam

end SqlTemplate
