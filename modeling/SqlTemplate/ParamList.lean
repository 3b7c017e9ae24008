import SqlTemplate.Json.Document
import SqlTemplate.Value.OfJson

/-!
# Parameter lists — parameters given as a JSON array

The items of the array are the parameters. An item that is a string equal to the skip token is the
skip marker; inside an array or object such a string is a string.

What is said of a text that is not JSON is the message of the library that reads it: it is given as
a function of the text.

* `ParamList.parse` reads a list, and `ParamList.ofJson` takes it from a document;
* `ParamList.Problem` is why a text is no parameter list.
-/

namespace SqlTemplate.ParamList

/-- Why a text is no parameter list. -/
inductive Problem where
  /-- It is not JSON, for a reason that its reader gives. -/
  | notJson (reason : Text)
  /-- It is JSON of another kind than an array. -/
  | notAnArray (kind : Text)
  /-- It holds a number that no parameter can be. -/
  | formless (reason : Value.Formless)
deriving DecidableEq, Repr

/-- What is said of a problem. -/
def Problem.message : Problem → Text
  | notJson reason => "invalid params JSON: ".toList ++ reason
  | notAnArray kind => "params must be a JSON array, got ".toList ++ kind
  | formless reason => Value.formlessMessage reason.number

/-- One parameter. -/
def param (skipToken : Text) : Json → Except Value.Formless Value
  | .string s => .ok (if s = skipToken then .skip else .string s)
  | item => Value.ofJson item

/-- The parameters that a document lists. -/
def ofJson (skipToken : Text) : Json → Except Problem (List Value)
  | .array items => (items.mapM (param skipToken)).mapError .formless
  | document => .error (.notAnArray document.kind)

/-- The parameters that a text lists, or else what is wrong with it, with the complaint about a text
    that is not JSON. -/
def parse (complaint : Text → Text) (skipToken text : Text) : Except Problem (List Value) :=
  match Json.parse? text with
  | none => .error (.notJson (complaint text))
  | some document => ofJson skipToken document

end SqlTemplate.ParamList
