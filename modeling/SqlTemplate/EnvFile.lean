import SqlTemplate.EnvFile.Statement
import SqlTemplate.EnvFile.Value
import SqlTemplate.Fields

/-!
# Environment files — variables set beside a project

Each statement of an environment file sets a variable: a name, an equals sign and a value,
optionally after the word `export`. Blank statements and comments are passed over. A statement that
is none of this ends the reading. A value may mention variables of the environment and those set
before it, of which the environment counts first.

* `EnvFile.assignment?` reads one statement;
* `EnvFile.settings` reads statements in order, and `EnvFile.get?` looks up what they set first.
-/

namespace SqlTemplate.EnvFile

/-- A name at the beginning of a text, and the rest. -/
def name? (text : Text) : Option (Text × Text) :=
  match text with
  | [] => none
  | c :: _ =>
    if c.isAlpha || c == '_' then some (text.span fun d => d.isAlphanum || d == '_' || d == '.')
    else none

/-- What follows an equals sign, without blanks around it. -/
def afterEquals? (text : Text) : Option Text :=
  match text.dropWhile Text.isBlank with
  | '=' :: rest => some (rest.dropWhile Text.isBlank)
  | _ => none

/-- A name and the text of the value assigned to it. -/
def assignment? (text : Text) : Option (Text × Text) := do
  let (name, rest) ← name? text
  return (name, ← afterEquals? rest)

/-- A name and the text of its value, where the word `export` may stand before the name. -/
def exported? (text : Text) : Option (Text × Text) :=
  match name? text with
  | none => none
  | some (name, rest) =>
    if name = "export".toList ∧ (afterEquals? rest).isNone then
      assignment? (rest.dropWhile Text.isBlank)
    else assignment? text

/-- A statement without the blanks around it. -/
def trimmed (text : Text) : Text :=
  ((text.reverse.dropWhile Text.isBlank).reverse).dropWhile Text.isBlank

/-- The value of a variable: that of the environment, else the first one set, else nothing. -/
def valueOf (environment : Text → Option Text) (earlier : Fields Text) (name : Text) : Text :=
  ((environment name).or (Fields.get? name earlier)).getD []

/-- What statements set after earlier ones, up to the first that cannot be read. -/
def settings (environment : Text → Option Text) (earlier : Fields Text) :
    List Text → Fields Text
  | [] => earlier
  | statement :: rest =>
    match trimmed statement with
    | [] | '#' :: _ => settings environment earlier rest
    | text =>
      match exported? text with
      | none => earlier
      | some (name, text) =>
        match value? (valueOf environment earlier) text with
        | none => earlier
        | some value => settings environment (earlier ++ [(name, value)]) rest

/-- The value that a file first gives to a name. -/
def get? (environment : Text → Option Text) (name : Text) (content : Text) : Option Text :=
  Fields.get? name (settings environment [] (statements content))

end SqlTemplate.EnvFile
