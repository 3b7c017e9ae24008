import SqlTemplate.Fields.Assigned
import SqlTemplate.Proofs.Rejections

/-!
# Columns — a map built from pairs is written as one assignment for each name

Pairs may assign to a column again and again; SQL may not. The map that is built from them names
each column once, and its text has one assignment for each of its fields, in their order.

* `Value.Listed` says which text stands for a value in a list of values, and `Value.Assignment` that
  an assignment has that text behind the name of its column;
* `Value.exists_listed` — every scalar that is not at fault has such a text;
* **`Value.exists_assignments`** — so a map of them is written as assignments, one for each field;
* `Value.ofFields_eq_map` — fields of values are passed on as they are;
* **`Value.ofPairs_assigns`** takes the pairs to the text.
-/

namespace SqlTemplate.Value

open Rendering

/-! ## What is written for a value among values -/

/-- A text stands for a value in a list of values: an integer in front makes a list one of values,
    and behind it the text is what is written. For a string that is the escaped string between
    single quotes. -/
structure Listed (escape : Escaper) (value : Value) (text : Text) : Prop where
  behind : ∀ (count : Nat) (n : Int64),
    (list [.int n, value]).WrittenAs escape count .values (intText n ++ (", ".toList ++ text))
  string : ∀ s, value = .string s → text = Quote.single (escape s)

/-- An assignment to the name of a field has the name between backticks and what stands for the
    field's value in a list of values. -/
def Assignment (escape : Escaper) (field : Text × Value) (written : Text) : Prop :=
  ∃ text, field.2.Listed escape text ∧ written = Quote.backtick field.1 ++ (" = ".toList ++ text)

/-- The text of an entry is what stands for it in a list of values. -/
theorem listed_of_entryText {escape : Escaper} {value : Value} {text : Text}
    (h : entryText (fun s => Quote.single (escape s)) value = .ok text) :
    value.Listed escape text where
  behind count n := by
    have hitems : [Value.int n, value].mapM (entryText fun s => Quote.single (escape s)) =
        .ok [intText n, text] := mapM_eq_ok_iff.mpr (.cons rfl (.cons h .nil))
    have htext : (Param.values [.int n, value]).text escape =
        .ok (intText n ++ (", ".toList ++ text)) := by
      rw [Param.text, hitems]
      show Except.ok (commaSeparated [intText n, text]) = _
      rw [commaSeparated, Text.join_cons_cons, Text.join_singleton]
    exact writtenAs_of_text rfl htext
  string s hstring := by
    rw [hstring] at h
    exact (Except.ok.inj h).symm

/-- A scalar that is not at fault has a text. -/
theorem exists_listed {value : Value} (h : value.entryFault? = none) (escape : Escaper) :
    ∃ text, entryText (fun s => Quote.single (escape s)) value = .ok text ∧
      value.Listed escape text := by
  obtain ⟨text, htext⟩ := error?_eq_none_iff.mp ((error?_entryText _ value).trans h)
  exact ⟨text, htext, listed_of_entryText htext⟩

/-! ## Maps -/

theorem exists_assignment {field : Text × Value} (h : field.2.entryFault? = none)
    (escape : Escaper) :
    ∃ written, assignmentText (fun s => Quote.single (escape s)) field = .ok written ∧
      Assignment escape field written := by
  obtain ⟨text, htext, hlisted⟩ := exists_listed h escape
  refine ⟨Quote.backtick field.1 ++ (" = ".toList ++ text), ?_, text, hlisted, rfl⟩
  rw [assignmentText, htext, ← List.append_assoc]
  rfl

/-- **ASSIGNMENTS**: a map of scalars that are not at fault is written as assignments with commas
    between them, one for each field and in their order. -/
theorem exists_assignments {fields : List (Text × Value)}
    (h : ∀ field ∈ fields, field.2.entryFault? = none) (escape : Escaper) :
    ∃ entries, List.Forall₂ (Assignment escape) fields entries ∧
      ∀ count, (map fields).WrittenAs escape count .values (Text.join ", ".toList entries) := by
  obtain ⟨entries, hentries, hassigns⟩ :=
    exists_mapM_eq_ok fun field hfield => exists_assignment (h field hfield) escape
  refine ⟨entries, hassigns, ?_⟩
  intro count
  have htext : (Param.assignments fields).text escape = .ok (Text.join ", ".toList entries) := by
    rw [Param.text, hentries]
    rfl
  exact writtenAs_of_text rfl htext

/-- Fields that repeat no name keep their names, in order, and have their entries converted. -/
theorem ofFields_eq_map {α : Type} (convert : α → Value) {fields : Fields α}
    (h : (Fields.keys fields).Nodup) :
    ofFields convert fields = .map (fields.map fun field => (field.1, convert field.2)) := by
  have hkeys : Fields.keys (fields.map fun field => (field.1, convert field.2)) =
      Fields.keys fields := by
    rw [Fields.keys, List.map_map]
    rfl
  rw [← hkeys] at h
  exact congrArg map (Fields.ofPairs_eq_self h)

/-! ## From pairs to assignments -/

/-- **COLUMNS**: pairs of names and scalars that are not at fault, with any repetitions, make a map
    of each name once, in the order of first mentions, with its last value. Passed on as fields it
    stays as it is, and it is written as one assignment for each of its fields, in their order, with
    the value as in a list of values. -/
theorem ofPairs_assigns (escape : Escaper) (pairs : List (Text × Value))
    (hpairs : ∀ pair ∈ pairs, pair.2.entryFault? = none) :
    ∃ fields, ofPairs pairs = .map fields ∧ Fields.Assigned pairs fields ∧
      ofFields id fields = .map fields ∧
      ∃ entries, List.Forall₂ (Assignment escape) fields entries ∧
        (∀ count,
          (map fields).WrittenAs escape count .values (Text.join ", ".toList entries)) ∧
        ∀ template before after : Text,
          (Block.unwrap template).splitFirst? ['?', 'a'] = some (before, after) →
          compile escape template [.map fields] =
            .ok (before ++ (Text.join ", ".toList entries ++ after)) := by
  have hassigned : Fields.Assigned pairs (Fields.ofPairs pairs) := Fields.assigned_ofPairs pairs
  have hfields : ∀ field ∈ Fields.ofPairs pairs, field.2.entryFault? = none :=
    fun field hfield => hpairs field (hassigned.mem hfield)
  obtain ⟨entries, hentries, hwritten⟩ := exists_assignments hfields escape
  refine ⟨Fields.ofPairs pairs, rfl, hassigned, ?_, entries, hentries, hwritten, ?_⟩
  · exact (ofFields_eq_map id hassigned.nodup).trans (congrArg map (List.map_id _))
  · intro template before after hcut
    exact compile_of_writtenAs (hwritten 1) hcut

/-- Two columns that are assigned to twice each, in turn. -/
theorem ofPairs_assigns_in_turn :
    Fields.Assigned
        [("b".toList, .int 1), ("a".toList, .string "x'".toList), ("b".toList, .null),
          ("a".toList, .string "'y".toList)]
        [("b".toList, Value.null), ("a".toList, .string "'y".toList)] ∧
      ∃ entries,
        List.Forall₂ (Assignment id)
          [("b".toList, .null), ("a".toList, .string "'y".toList)] entries ∧
        compile id "SET ?a;".toList
            [.map [("b".toList, .null), ("a".toList, .string "'y".toList)]] =
          .ok ("SET ".toList ++ (Text.join ", ".toList entries ++ ";".toList)) := by
  obtain ⟨fields, hmap, hassigned, -, entries, hentries, -, hcompile⟩ :=
    ofPairs_assigns id
      [("b".toList, .int 1), ("a".toList, .string "x'".toList), ("b".toList, .null),
        ("a".toList, .string "'y".toList)] (by decide)
  obtain rfl : [("b".toList, Value.null), ("a".toList, .string "'y".toList)] = fields :=
    map.inj hmap
  exact ⟨hassigned, entries, hentries, hcompile _ _ _ rfl⟩

/-- The text of such a map. -/
example : compile id "SET ?a;".toList
    [.ofPairs [("b".toList, .int 1), ("a".toList, .string "x'".toList), ("b".toList, .null)]] =
      .ok "SET \x60b\x60 = NULL, \x60a\x60 = 'x'';".toList := by decide

end SqlTemplate.Value
