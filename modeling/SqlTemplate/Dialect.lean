import SqlTemplate.Text

/-!
# Dialects — how a string is made safe between quotes

An escaper turns a text into one that can stand between quotes. A dialect is one of the two built-in
escapers, with the names that select it.

* `Dialect.escape` puts a backslash before what ends or confuses a MySQL literal
  (`Dialect.escapeMysql`), or doubles both kinds of quotes (`Dialect.escapeStandard`);
* `Dialect.ofName?` finds a dialect by name, whatever the case of its ASCII letters;
* `Quote.single` and `Quote.backtick` put the quotes around a text.
-/

namespace SqlTemplate

/-- A way to make texts safe between quotes. -/
abbrev Escaper := Text → Text

/-! ## Quotes -/

namespace Quote

/-- An escaped text as a string literal. -/
def single (escaped : Text) : Text :=
  '\'' :: (escaped ++ ['\''])

/-- A text as an identifier. -/
def backtick (name : Text) : Text :=
  '\x60' :: (name ++ ['\x60'])

end Quote

/-! ## The two dialects -/

/-- The built-in ways to escape. -/
inductive Dialect where
  | mysql
  | standard
deriving DecidableEq, Repr

namespace Dialect

/-- The escaped form of one character of a MySQL literal: a backslash pair for NUL, line feed,
    carriage return, backslash, both quotes and Ctrl-Z, and otherwise the character. -/
def escapeMysqlChar (c : Char) : Text :=
  match c with
  | '\x00' => ['\\', '0']
  | '\n' => ['\\', 'n']
  | '\r' => ['\\', 'r']
  | '\\' => ['\\', '\\']
  | '\'' => ['\\', '\'']
  | '"' => ['\\', '"']
  | '\x1a' => ['\\', 'Z']
  | c => [c]

/-- A text escaped with backslashes. -/
def escapeMysql (raw : Text) : Text :=
  raw.flatMap escapeMysqlChar

/-- A text with every `mark` in it written twice. -/
def doubled (mark : Char) (raw : Text) : Text :=
  raw.flatMap fun c => if c = mark then [mark, mark] else [c]

/-- A text with its single quotes and then its backticks written twice. -/
def escapeStandard (raw : Text) : Text :=
  doubled '\x60' (doubled '\'' raw)

/-- The escaper of a dialect. -/
def escape : Dialect → Escaper
  | .mysql => escapeMysql
  | .standard => escapeStandard

/-! ## Names -/

/-- The name of a dialect. -/
def name : Dialect → Text
  | .mysql => "mysql".toList
  | .standard => "standard".toList

/-- The dialect where none is named. -/
def default : Dialect := .mysql

/-- The dialect that a name selects, whatever the case of its ASCII letters. -/
def ofName? (name : Text) : Option Dialect :=
  let lower := name.map Char.toLower
  if lower = "mysql".toList ∨ lower = "mariadb".toList then some .mysql
  else if lower = "standard".toList ∨ lower = "ansi".toList then some .standard
  else none

/-- What is said of a name that selects no dialect, in its own spelling. -/
def unknownMessage (name : Text) : Text :=
  "unknown dialect `".toList ++ name ++ "` (expected `mysql` or `standard`)".toList

/-- Every dialect answers to its name. -/
theorem ofName?_name (dialect : Dialect) : ofName? dialect.name = some dialect := by
  cases dialect <;> decide

end Dialect
end SqlTemplate
