import SqlTemplate.Text
import SqlTemplate.Text.Blank

/-!
# Statements — the lines of an environment file that belong together

A line feed ends a statement unless quotes are open; so a quoted value may span lines. A backslash
takes the meaning of the character after it, inside both kinds of quotes too. A number sign begins a
comment, up to the end of its line, where only blanks of the statement stand before it, or after a
single blank. A statement that the file ends in is none if quotes are open or if a single blank or a
backslash is last.

* `Reading` is where the reading of a file stands, with the statements completed so far;
* `Reading.step` reads one character;
* `statements` is the whole reading.
-/

namespace SqlTemplate.EnvFile

/-- Where a reading stands. -/
inductive Position where
  /-- At the beginning of a statement, blanks apart. -/
  | beginning
  | plain
  /-- After the first of some blanks, or the third, and so on. -/
  | blank
  | escape
  | quoted (mark : Char)
  | quotedEscape (mark : Char)
  | comment
deriving DecidableEq, Repr

/-- A reading under way, with the letters of the statement and the statements before it, the newest
    first. -/
structure Reading where
  position : Position
  letters : Text
  statements : List Text

namespace Reading

/-- The beginning of a reading. -/
def start : Reading := ⟨.beginning, [], []⟩

/-- The position after a character outside quotes that is no blank. -/
def afterPlain (c : Char) : Position :=
  if c = '\\' then .escape
  else if c = '\x22' ∨ c = '\x27' then .quoted c
  else .plain

/-- The position after a character that ends neither a statement nor its text. -/
def advance (position : Position) (c : Char) : Position :=
  match position with
  | .beginning => if Text.isBlank c then .beginning else afterPlain c
  | .plain => if Text.isBlank c ∧ c ≠ '\r' then .blank else afterPlain c
  | .blank => afterPlain c
  | .escape => .plain
  | .quoted mark =>
    if c = '\\' then .quotedEscape mark else if c = mark then .plain else .quoted mark
  | .quotedEscape mark => .quoted mark
  | .comment => .comment

/-- Whether quotes are open, so that a line feed belongs to the statement. -/
def isOpen : Position → Bool
  | .quoted _ | .quotedEscape _ => true
  | _ => false

/-- A reading reads a character. -/
def step (reading : Reading) (c : Char) : Reading :=
  let position := reading.position
  if c = '\n' ∧ !isOpen position then
    ⟨.beginning, [], reading.letters.reverse :: reading.statements⟩
  else if c = '#' ∧ (position = .beginning ∨ position = .blank) then
    { reading with position := .comment }
  else if position = .comment then reading
  else { reading with position := advance position c, letters := c :: reading.letters }

/-- The statements of a reading that ends here. -/
def finish (reading : Reading) : List Text :=
  match reading.position with
  | .beginning | .plain | .comment => (reading.letters.reverse :: reading.statements).reverse
  | .blank | .escape | .quoted _ | .quotedEscape _ => reading.statements.reverse

end Reading

/-- The statements of a file; a byte order mark at its beginning is no part of them. -/
def statements (content : Text) : List Text :=
  let content := match content with
    | '\ufeff' :: rest => rest
    | _ => content
  (content.foldl Reading.step Reading.start).finish

end SqlTemplate.EnvFile
