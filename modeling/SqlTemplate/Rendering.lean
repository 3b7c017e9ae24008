import SqlTemplate.Binary64.Shortest
import SqlTemplate.Dialect
import SqlTemplate.Param

/-!
# Rendering — parameters as SQL text

* `Param.text` writes a parameter: a null as `NULL`, a boolean as `1` or `0`, numbers in decimal,
  a lone string as an escaped literal, an identifier between backticks as it is;
* entries of a list or map are joined by commas. A string among them is escaped, and stands between
  backticks in a list of identifiers and between single quotes everywhere else; the names of a map
  stand between backticks as they are;
* `Fault` is why a parameter has no text: an entry of a list or map that is itself a container or
  a skip marker, or a float that is no finite number.
-/

namespace SqlTemplate

/-- What is wrong with a parameter that has no SQL text. -/
inductive Fault where
  | nestedList
  | nestedMap
  | nestedSkip
  | nonFinite
deriving DecidableEq, Repr

/-- The name of a fault. -/
def Fault.kind : Fault → Text
  | nestedList => "nested list".toList
  | nestedMap => "nested map".toList
  | nestedSkip => "skip marker inside container".toList
  | nonFinite => "non-finite float".toList

namespace Rendering

/-- A boolean as a number. -/
def boolText (b : Bool) : Text :=
  if b then ['1'] else ['0']

/-- An integer in decimal. -/
def intText (n : Int64) : Text :=
  Numeral.ofInt n.toInt

/-- A float in decimal, if it is a finite number. -/
def floatText (x : Binary64) : Except Fault Text :=
  if x.isFinite then .ok x.text else .error .nonFinite

/-- An entry of a list or map, in which `stringText` writes the strings. -/
def entryText (stringText : Text → Text) : Value → Except Fault Text
  | .null => .ok "NULL".toList
  | .bool b => .ok (boolText b)
  | .int n => .ok (intText n)
  | .float x => floatText x
  | .string s => .ok (stringText s)
  | .list _ => .error .nestedList
  | .map _ => .error .nestedMap
  | .skip => .error .nestedSkip

/-- One assignment to a name. -/
def assignmentText (stringText : Text → Text) (field : Text × Value) : Except Fault Text := do
  let value ← entryText stringText field.2
  return Quote.backtick field.1 ++ " = ".toList ++ value

/-- Written entries in a row. -/
def commaSeparated (entries : List Text) : Text :=
  Text.join ", ".toList entries

end Rendering

open Rendering in
/-- A parameter as SQL text; the first entry at fault is reported. -/
def Param.text (escape : Escaper) : Param → Except Fault Text
  | null => .ok "NULL".toList
  | bool b => .ok (boolText b)
  | int n => .ok (intText n)
  | float x => floatText x
  | literal s => .ok (Quote.single (escape s))
  | identifier s => .ok (Quote.backtick s)
  | values items =>
    commaSeparated <$> items.mapM (entryText fun s => Quote.single (escape s))
  | identifiers items =>
    commaSeparated <$> items.mapM (entryText fun s => Quote.backtick (escape s))
  | assignments fields =>
    commaSeparated <$> fields.mapM (assignmentText fun s => Quote.single (escape s))

end SqlTemplate
