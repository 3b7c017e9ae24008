import SqlTemplate.Log.Pattern
import SqlTemplate.Log.Record
import SqlTemplate.Text.Alphanumeric
import SqlTemplate.Text.Blank

/-!
# Directives — one part of a log filter

A directive is a level, a target, or a target with a level after an equals sign. Square brackets
after the target, or in its place, narrow it down to a span by its name, to records that carry a
field, named between braces, or to both. Where no level is given all levels are meant.

* `Directive.parse?` reads a directive;
* `Directive.appliesTo` says which records it is about, and `Directive.isVaguerThan` which of two
  counts less.
-/

namespace SqlTemplate.Log

/-- A field that records have to carry, and the value it has to have, if one is given. -/
structure FieldCondition where
  name : Text
  value : Option Text
deriving DecidableEq, Repr

/-- The level up to which some records are shown. -/
structure Directive where
  target : Option Text
  span : Option Text
  field : Option FieldCondition
  level : Level
deriving DecidableEq, Repr

/-- The condition that a text is. -/
def FieldCondition.parse? (text : Text) : Option FieldCondition :=
  match Text.parts '=' text with
  | [name] => if name = [] then none else some ⟨name, none⟩
  | name :: value :: _ => if Pattern.isSound value then some ⟨name, some value⟩ else none
  | [] => none

namespace Directive

/-- The level that a text names, by its name in any case of letters or by its number. -/
def level? (text : Text) : Option Level :=
  let digits := match text with
    | '+' :: rest => rest
    | _ => text
  match Numeral.toNat? digits with
  | some n => Level.all.find? fun level => level.rank == n
  | none => Level.all.find? fun level => level.name == text.map Char.toUpper

/-! ## The reading -/

/-- Where the reading of a directive stands. Letters are kept with the newest first. -/
inductive Place where
  | start
  /-- In a word that is a target, or a level where nothing follows it. -/
  | word (letters : Text)
  | span (letters : Text)
  | field (letters : Text)
  | afterField
  | afterSpan
  | level (letters : Text)

/-- A reading under way, with the directive so far. -/
structure Reading where
  place : Place
  directive : Directive

namespace Reading

/-- The beginning of a reading: a directive that shows everything. -/
def start : Reading := ⟨.start, ⟨none, none, none, .trace⟩⟩

/-- A character that a directive may begin with, brackets apart. -/
def isInitial (c : Char) : Bool :=
  Text.isAlphanumeric c || c == '-' || c == ':' || c == '_'

/-- A reading reads a character, and keeps a letter for it. -/
def step (reading : Reading) (character : Char × Char) : Option Reading :=
  let (c, letter) := character
  let directive := reading.directive
  match reading.place with
  | .start =>
    if c = '[' then some ⟨.span [], directive⟩
    else if isInitial c then some ⟨.word [letter], directive⟩
    else none
  | .word letters =>
    if c = '=' then some ⟨.level [], { directive with target := some letters.reverse }⟩
    else if c = '[' then some ⟨.span [], { directive with target := some letters.reverse }⟩
    else some ⟨.word (letter :: letters), directive⟩
  | .span letters =>
    if c = ']' then some ⟨.afterSpan, { directive with span := some letters.reverse }⟩
    else if c = '\x7b' then
      let span := if letters = [] then none else some letters.reverse
      some ⟨.field [], { directive with span }⟩
    else some ⟨.span (letter :: letters), directive⟩
  | .field letters =>
    if c = '\x7d' then
      (FieldCondition.parse? letters.reverse).map fun field =>
        ⟨.afterField, { directive with field := some field }⟩
    else some ⟨.field (letter :: letters), directive⟩
  | .afterField => if c = ']' then some ⟨.afterSpan, directive⟩ else none
  | .afterSpan => if c = '=' then some ⟨.level [], directive⟩ else none
  | .level letters => some ⟨.level (letter :: letters), directive⟩

/-- The directive of a reading that ends before some last letters. -/
def finish? (last : Text) (reading : Reading) : Option Directive :=
  let directive := reading.directive
  match reading.place with
  | .word letters =>
    let word := letters.reverse ++ last
    some (match level? word with
      | some level => { directive with level }
      | none => { directive with target := some word })
  | .level letters =>
    let word := letters.reverse ++ last
    if word = [] then some directive
    else (level? word).map fun level => { directive with level }
  | .afterSpan => some directive
  | _ => none

end Reading

/-- The directive that a text is. It is read as if there were no blanks around it, but its parts are
    cut out at the same distances from the beginning of the whole text, blanks included. -/
def parse? (text : Text) : Option Directive :=
  let inner := ((text.dropWhile Text.isBlank).reverse.dropWhile Text.isBlank).reverse
  ((inner.zip text).foldlM Reading.step Reading.start).bind
    (Reading.finish? (text.drop inner.length))

/-! ## What a directive is about -/

/-- Whether a directive is about a record. Records of a run are made inside no span, and the values
    of their fields are not looked at. -/
def appliesTo (directive : Directive) (record : Record) : Bool :=
  directive.span.isNone &&
    directive.target.all (fun target => target.isPrefixOf record.target) &&
    directive.field.all fun field => field.value.isNone && record.fieldNames.contains field.name

/-- The length of a directive's target. -/
def targetLength (directive : Directive) : Nat :=
  (directive.target.map List.length).getD 0

/-- The name of a directive's field. -/
def fieldName (directive : Directive) : Text :=
  (directive.field.map FieldCondition.name).getD []

/-- Whether a directive says less than another about the same record: its target is shorter, or as
    long and its field comes earlier in the alphabet, no field before any. -/
def isVaguerThan (directive other : Directive) : Bool :=
  directive.targetLength < other.targetLength ||
    (directive.targetLength == other.targetLength &&
      directive.fieldName.lex other.fieldName fun c d => c < d)

end Directive
end SqlTemplate.Log
