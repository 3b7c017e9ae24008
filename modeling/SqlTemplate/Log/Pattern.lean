import SqlTemplate.Text.Numeral

/-!
# Patterns — what the value of a field may be asked to match

A directive may give a field a value: a number, or a pattern with groups, classes, alternatives and
repetitions. No record of a run is shown because of a value, so all that matters of a pattern is
whether it is one.

* `Pattern.Reading.step` reads one character, and refuses one that cannot come there;
* `Pattern.isSound` says whether a text is a number or a pattern.
-/

namespace SqlTemplate.Log.Pattern

/-- Where the reading of a pattern stands. -/
inductive Place where
  /-- Between two parts of a sequence; `repeatable` where a part stands before. -/
  | sequence (repeatable : Bool)
  | groupStart
  | escape
  | classStart
  | inClass
  | classEscape
deriving DecidableEq, Repr

/-- A reading under way, with the number of groups that are open. -/
structure Reading where
  place : Place
  depth : Nat
deriving DecidableEq, Repr

namespace Reading

/-- The beginning of a reading. -/
def start : Reading := ⟨.sequence false, 0⟩

/-- A reading between two parts of a sequence reads a character. -/
def sequence (depth : Nat) (repeatable : Bool) (c : Char) : Option Reading :=
  match c with
  | '(' => some ⟨.groupStart, depth + 1⟩
  | ')' => if depth = 0 then none else some ⟨.sequence true, depth - 1⟩
  | '|' => some ⟨.sequence false, depth⟩
  | '*' | '+' | '?' => if repeatable then some ⟨.sequence true, depth⟩ else none
  | '[' => some ⟨.classStart, depth⟩
  | '\\' => some ⟨.escape, depth⟩
  | '\x7b' => none
  | _ => some ⟨.sequence true, depth⟩

/-- A reading reads a character, unless it cannot come there. -/
def step (reading : Reading) (c : Char) : Option Reading :=
  let depth := reading.depth
  match reading.place with
  | .sequence repeatable => sequence depth repeatable c
  | .groupStart => if c = '?' then some ⟨.sequence false, depth⟩ else sequence depth false c
  | .escape => some ⟨.sequence true, depth⟩
  | .classStart =>
    some <|
      if c = '^' then reading
      else if c = '\\' then ⟨.classEscape, depth⟩
      else ⟨.inClass, depth⟩
  | .inClass =>
    some <|
      if c = ']' then ⟨.sequence true, depth⟩
      else if c = '\\' then ⟨.classEscape, depth⟩
      else reading
  | .classEscape => some ⟨.inClass, depth⟩

/-- Whether a reading may end here, with nothing left open. -/
def isComplete (reading : Reading) : Bool :=
  match reading.place with
  | .sequence _ => reading.depth == 0
  | _ => false

end Reading

/-- Whether a text is a number or a pattern. -/
def isSound (text : Text) : Bool :=
  match text with
  | '+' :: rest => (Numeral.toNat? rest).isSome
  | text => (text.foldlM Reading.step Reading.start).any Reading.isComplete

end SqlTemplate.Log.Pattern
