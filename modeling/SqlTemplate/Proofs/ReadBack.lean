import SqlTemplate.Proofs.Doubling
import SqlTemplate.Proofs.StringLiteral
import SqlTemplate.Sql.Row
import SqlTemplate.Value.Fault

/-!
# Reading back — written lists and maps are rows of literals for their entries

A server cuts a written list at the commas between entries, although strings may hold commas, quotes
and whole entries themselves. It finds its way because every entry is read up to its own end and no
further, whatever the text behind a comma is:

* `entryText_readsAs` — a written entry is one literal, which denotes the entry;
* `assignmentText_readsAs` — a written assignment is the name and such a literal;
* **`Row.read?_commaSeparated`** — items that are each read up to their end are read in a row, by
  induction on the row;
* `values_read_back` — lists and maps of scalars read back.
-/

namespace SqlTemplate

open Dialect Rendering Sql

namespace Sql

/-- What a literal stands for: a null for the null, one or zero for a boolean, its number for an
    integer, the digits of a float for the float, and its content for a string. -/
def Literal.Denotes : Literal → Value → Prop
  | .null, .null => True
  | .number numeral, .bool b => numeral = if b then ['1'] else ['0']
  | .number numeral, .int n => Numeral.toInt? numeral = some n.toInt
  | .number numeral, .float x => numeral = x.text
  | .string content, .string s => content = s
  | _, _ => False

/-- What an assignment stands for: the field of its name with the value that its literal denotes. -/
def Row.Assigns (assignment : Text × Literal) (field : Text × Value) : Prop :=
  assignment.1 = field.1 ∧ assignment.2.Denotes field.2

/-- Where an item of a row ends: the row ends too, or the comma before the next item follows. -/
def Row.Ends (rest : Text) : Prop :=
  rest = [] ∨ ∃ more, rest = ", ".toList ++ more

/-- What a reader makes of a written item that an end follows: it reads something that stands for
    the item, all of it and nothing behind it. -/
structure Row.ReadsAs {α β : Type} (item? : Text → Option (β × Text)) (Denotes : β → α → Prop)
    (item : α) (written : Text) : Prop where
  ne_nil : written ≠ []
  read : ∀ rest, Row.Ends rest → ∃ read, item? (written ++ rest) = some (read, rest) ∧
    Denotes read item

/-- No mark but the comma stands where an item ends, so that no quoted text goes on there. -/
theorem Row.Ends.head?_ne {rest : Text} (h : Row.Ends rest) {mark : Char} (hmark : mark ≠ ',') :
    rest.head? ≠ some mark := by
  rcases h with rfl | ⟨more, rfl⟩
  · exact nofun
  · exact fun heq => hmark (Option.some.inj heq).symm

/-- A number does not go on where an item ends. -/
theorem Row.Ends.takeWhile_isNumeric {rest : Text} (h : Row.Ends rest) :
    rest.takeWhile Numeral.isNumeric = [] ∧ rest.dropWhile Numeral.isNumeric = rest := by
  rcases h with rfl | ⟨more, rfl⟩
  · exact ⟨rfl, rfl⟩
  · exact ⟨rfl, rfl⟩

/-! ## One literal -/

/-- A null is read as one. -/
theorem Literal.read?_null (rest : Text) :
    Literal.read? ("NULL".toList ++ rest) = some (.null, rest) := by
  rw [Literal.read?, Text.after?_eq_some_iff.mpr rfl]

/-- A written string is read as the string. -/
theorem Literal.read?_single (s : Text) {rest : Text} (h : rest.head? ≠ some '\'') :
    Literal.read? (Quote.single (escapeMysql s) ++ rest) = some (.string s, rest) := by
  have hnull : Text.after? (Quote.single (escapeMysql s) ++ rest) "NULL".toList = none := rfl
  rw [Literal.read?, hnull, readString_single s h]
  rfl

/-- A written number is read as its numeral. -/
theorem Literal.read?_number {numeral rest : Text} (hnumeral : Numeral.IsPositional numeral)
    (hrest : Row.Ends rest) :
    Literal.read? (numeral ++ rest) = some (.number numeral, rest) := by
  obtain ⟨htake, hdrop⟩ := hrest.takeWhile_isNumeric
  have hall : ∀ c ∈ numeral, Numeral.isNumeric c = true := fun _ hc => hnumeral.isNumeric hc
  have hread : Literal.readNumber (numeral ++ rest) = some (numeral, rest) := by
    rw [Literal.readNumber, List.takeWhile_append_of_pos hall, List.dropWhile_append_of_pos hall,
      htake, hdrop, List.append_nil]
    exact if_pos hnumeral.isPositional
  cases numeral with
  | nil => exact absurd rfl hnumeral.ne_nil
  | cons c numeral =>
      have hc : Numeral.isNumeric c = true := hall c List.mem_cons_self
      have hnull : Text.after? (c :: numeral ++ rest) "NULL".toList = none :=
        if_neg fun heq => absurd (heq ▸ hc) (by decide)
      have hquote : (c :: numeral ++ rest).head? ≠ some '\'' :=
        fun heq => absurd (Option.some.inj heq ▸ hc) (by decide)
      rw [Literal.read?, hnull]
      show (if _ then _ else _) = _
      rw [if_neg hquote, hread]
      rfl

end Sql

/-- **ENTRIES READ BACK**: a written entry is one literal that denotes it. -/
theorem entryText_readsAs {value : Value} (h : value.entryFault? = none) :
    ∃ written, entryText (fun s => Quote.single (escapeMysql s)) value = .ok written ∧
      Row.ReadsAs Literal.read? Literal.Denotes value written := by
  cases value with
  | null =>
      refine ⟨"NULL".toList, rfl, ⟨by decide, fun rest _ => ?_⟩⟩
      exact ⟨.null, Literal.read?_null rest, trivial⟩
  | bool b =>
      have hnumeral := isPositional_boolText b
      refine ⟨boolText b, rfl, ⟨hnumeral.ne_nil, fun rest hrest => ?_⟩⟩
      exact ⟨.number (boolText b), Literal.read?_number hnumeral hrest, rfl⟩
  | int n =>
      have hnumeral := Numeral.isPositional_ofInt n.toInt
      refine ⟨intText n, rfl, ⟨hnumeral.ne_nil, fun rest hrest => ?_⟩⟩
      exact ⟨.number (intText n), Literal.read?_number hnumeral hrest, Numeral.toInt?_ofInt n.toInt⟩
  | float x =>
      have hnumeral := x.isPositional_text
      have hfinite : x.isFinite = true := by
        refine Decidable.of_not_not fun hx => ?_
        rw [Value.entryFault?, if_neg hx] at h
        exact nomatch h
      refine ⟨x.text, if_pos hfinite, ⟨hnumeral.ne_nil, fun rest hrest => ?_⟩⟩
      exact ⟨.number x.text, Literal.read?_number hnumeral hrest, rfl⟩
  | string s =>
      refine ⟨Quote.single (escapeMysql s), rfl, ⟨nofun, fun rest hrest => ?_⟩⟩
      exact ⟨.string s, Literal.read?_single s (hrest.head?_ne (by decide)), rfl⟩
  | list _ => exact nomatch h
  | map _ => exact nomatch h
  | skip => exact nomatch h

/-! ## One assignment -/

/-- A name without the mark is read up to the mark behind it. -/
theorem Sql.Literal.readDoubled_append {mark : Char} {name rest : Text} (hname : mark ∉ name)
    (hrest : rest.head? ≠ some mark) :
    Literal.readDoubled mark (name ++ mark :: rest) = some (name, rest) := by
  have hread := Literal.readDoubled_doubled mark name hrest
  rwa [doubled_of_not_mem hname] at hread

/-- **ASSIGNMENTS READ BACK**: a written assignment is its name and one literal that denotes its
    value. -/
theorem assignmentText_readsAs {field : Text × Value} (hname : '\x60' ∉ field.1)
    (hvalue : field.2.entryFault? = none) :
    ∃ written, assignmentText (fun s => Quote.single (escapeMysql s)) field = .ok written ∧
      Row.ReadsAs Row.assignment? Row.Assigns field written := by
  obtain ⟨name, value⟩ := field
  obtain ⟨written, hwritten, hreads⟩ := entryText_readsAs hvalue
  refine ⟨Quote.backtick name ++ " = ".toList ++ written, ?_, ⟨nofun, fun rest hrest => ?_⟩⟩
  · rw [assignmentText, hwritten]
    rfl
  · obtain ⟨literal, hliteral, hdenotes⟩ := hreads.read rest hrest
    refine ⟨(name, literal), ?_, rfl, hdenotes⟩
    have hquoted : Literal.readDoubled '\x60'
        (name ++ '\x60' :: (" = ".toList ++ (written ++ rest))) =
          some (name, " = ".toList ++ (written ++ rest)) :=
      Literal.readDoubled_append hname fun heq => absurd (Option.some.inj heq) (by decide)
    have htext : Quote.backtick name ++ " = ".toList ++ written ++ rest =
        ['\x60'] ++ (name ++ '\x60' :: (" = ".toList ++ (written ++ rest))) := by
      simp [Quote.backtick]
    rw [htext, Row.assignment?, Text.after?_eq_some_iff.mpr rfl, Option.bind_eq_bind,
      Option.bind_some, hquoted, Option.bind_eq_bind, Option.bind_some]
    show (Text.after? (" = ".toList ++ (written ++ rest)) " = ".toList).bind _ = _
    rw [Text.after?_eq_some_iff.mpr rfl, Option.bind_some, hliteral]
    rfl

/-! ## Rows of items -/

variable {α β : Type} {item? : Text → Option (β × Text)} {Denotes : β → α → Prop}

/-- Reading the first of several items leaves the row of the others. -/
theorem Sql.Row.items?_cons {item : α} {written : Text} (h : ReadsAs item? Denotes item written)
    (more : Text) :
    ∃ read, Denotes read item ∧
      items? item? (written ++ (", ".toList ++ more)) = (items? item? more).map (read :: ·) := by
  obtain ⟨read, hread, hdenotes⟩ := h.read (", ".toList ++ more) (Or.inr ⟨more, rfl⟩)
  have hlt : more.length < (written ++ (", ".toList ++ more)).length := by
    rw [List.length_append, List.length_append]
    show more.length < written.length + (2 + more.length)
    omega
  exact ⟨read, hdenotes, items?_of_more hread (Text.after?_eq_some_iff.mpr rfl) hlt⟩

/-- The last item is read as a row of one. -/
theorem Sql.Row.items?_singleton {item : α} {written : Text}
    (h : ReadsAs item? Denotes item written) :
    ∃ read, Denotes read item ∧ items? item? written = some [read] := by
  obtain ⟨read, hread, hdenotes⟩ := h.read [] (Or.inl rfl)
  rw [List.append_nil] at hread
  exact ⟨read, hdenotes, items?_of_end hread⟩

/-- A row that begins with an item is read from the first item to the last. -/
theorem Sql.Row.items?_commaSeparated {item : α} {items : List α} {written : Text}
    {entries : List Text} (hfirst : ReadsAs item? Denotes item written)
    (hothers : List.Forall₂ (ReadsAs item? Denotes) items entries) :
    ∃ reads, items? item? (commaSeparated (written :: entries)) = some reads ∧
      List.Forall₂ Denotes reads (item :: items) := by
  induction hothers generalizing item written with
  | nil =>
      obtain ⟨read, hdenotes, hread⟩ := items?_singleton hfirst
      refine ⟨[read], ?_, .cons hdenotes .nil⟩
      rw [commaSeparated, Text.join_singleton, hread]
  | cons hnext _ ih =>
      obtain ⟨reads, hreads, hall⟩ := ih hnext
      obtain ⟨read, hdenotes, hread⟩ := items?_cons hfirst _
      refine ⟨read :: reads, ?_, .cons hdenotes hall⟩
      rw [commaSeparated, Text.join_cons_cons, hread, ← commaSeparated, hreads]
      rfl

/-- **ROWS READ BACK**: written items that are each read up to their end are read in a row, in order
    and as many as there are. -/
theorem Sql.Row.read?_commaSeparated {items : List α} {entries : List Text}
    (h : List.Forall₂ (ReadsAs item? Denotes) items entries) :
    ∃ reads, Row.read? item? (commaSeparated entries) = some reads ∧
      List.Forall₂ Denotes reads items := by
  cases h with
  | nil => exact ⟨[], rfl, .nil⟩
  | @cons _ written _ entries hfirst hothers =>
      obtain ⟨reads, hreads, hall⟩ := items?_commaSeparated hfirst hothers
      -- a row with items is not taken for the empty one
      have hne : commaSeparated (written :: entries) ≠ [] := by
        cases entries with
        | nil =>
            rw [commaSeparated, Text.join_singleton]
            exact hfirst.ne_nil
        | cons next entries =>
            rw [commaSeparated, Text.join_cons_cons]
            exact List.append_ne_nil_of_left_ne_nil hfirst.ne_nil _
      refine ⟨reads, ?_, hall⟩
      rw [Row.read?, List.isEmpty_eq_false_iff.mpr hne]
      exact hreads

/-- Items that can each be written and read make a row that can. -/
theorem Sql.Row.read_back {write : α → Except Fault Text} {items : List α}
    (h : ∀ item ∈ items, ∃ written, write item = .ok written ∧
      ReadsAs item? Denotes item written) :
    ∃ written reads, commaSeparated <$> items.mapM write = .ok written ∧
      Row.read? item? written = some reads ∧ List.Forall₂ Denotes reads items := by
  obtain ⟨entries, hentries, hreads⟩ := exists_mapM_eq_ok h
  obtain ⟨reads, hread, hall⟩ := Row.read?_commaSeparated hreads
  refine ⟨commaSeparated entries, reads, ?_, hread, hall⟩
  rw [hentries]
  rfl

/-! ## Lists and maps -/

/-- A value fills `?a` with a text. -/
def Value.FillsValues (count : Nat) (value : Value) (written : Text) : Prop :=
  ∃ param, Param.classify? count value = some param ∧ param.placeholder = .values ∧
    param.text escapeMysql = .ok written

/-- **LISTS AND MAPS READ BACK**: a list of scalars that is empty or begins with an integer fills
    `?a` with literals for its items, as many and in order, and a map of scalars whose names hold no
    backtick fills it with assignments for its fields, as many and in order. -/
theorem values_read_back (count : Nat) :
    (∀ items : List Value, (items = [] ∨ ∃ n rest, items = .int n :: rest) →
      (∀ item ∈ items, item.entryFault? = none) →
      ∃ written literals, (Value.list items).FillsValues count written ∧
        Row.read? Literal.read? written = some literals ∧
        List.Forall₂ Literal.Denotes literals items ∧ (items = [] → written = [])) ∧
    ∀ fields : List (Text × Value),
      (∀ field ∈ fields, '\x60' ∉ field.1 ∧ field.2.entryFault? = none) →
      ∃ written assignments, (Value.map fields).FillsValues count written ∧
        Row.read? Row.assignment? written = some assignments ∧
        List.Forall₂ Row.Assigns assignments fields := by
  constructor
  · intro items hvalues hitems
    obtain ⟨written, literals, hwritten, hread, hdenotes⟩ :=
      Row.read_back fun item hitem => entryText_readsAs (hitems item hitem)
    have hrole : Param.ofItems items = .values items := by
      rcases hvalues with rfl | ⟨n, rest, rfl⟩
      · rfl
      · rfl
    refine ⟨written, literals, ⟨.values items, congrArg some hrole, rfl, hwritten⟩, hread,
      hdenotes, ?_⟩
    rintro rfl
    exact (Except.ok.inj hwritten).symm
  · intro fields hfields
    obtain ⟨written, assignments, hwritten, hread, hassigns⟩ :=
      Row.read_back fun field hfield =>
        assignmentText_readsAs (hfields field hfield).1 (hfields field hfield).2
    exact ⟨written, assignments, ⟨.assignments fields, rfl, rfl, hwritten⟩, hread, hassigns⟩

/-- A string that looks like the entries behind it, in a list and in a map. -/
theorem values_read_back_lookalike :
    (∃ written literals,
      (Value.list [.int (-1), .string "\\', 'b".toList, .null]).FillsValues 2 written ∧
        Row.read? Literal.read? written = some literals ∧
        List.Forall₂ Literal.Denotes literals
          [.int (-1), .string "\\', 'b".toList, .null] ∧
        ([.int (-1), .string "\\', 'b".toList, .null] = ([] : List Value) → written = [])) ∧
    ∃ written assignments,
      (Value.map [("a".toList, .string "', \x60b\x60 = 1".toList)]).FillsValues 2 written ∧
        Row.read? Row.assignment? written = some assignments ∧
        List.Forall₂ Row.Assigns assignments
          [("a".toList, .string "', \x60b\x60 = 1".toList)] :=
  ⟨(values_read_back 2).1 _ (Or.inr ⟨-1, _, rfl⟩) (by decide),
    (values_read_back 2).2 _ (by decide)⟩

end SqlTemplate
