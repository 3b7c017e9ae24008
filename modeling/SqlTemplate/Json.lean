import SqlTemplate.Binary64
import SqlTemplate.Fields

/-!
# JSON — documents as trees

* `Json` is a JSON document; an object is a list of members in the order of their first mention;
* `Json.Number` is a number of a document: a natural number or a negative integer of 64 bits, or a
  finite floating-point number.
-/

namespace SqlTemplate

/-- A number of a JSON document. -/
inductive Json.Number where
  | natural (n : UInt64)
  | negative (n : Int64) (below : n < 0)
  | real (x : Binary64) (finite : x.isFinite = true)

/-- A JSON document. -/
inductive Json where
  | null
  | bool (b : Bool)
  | number (n : Json.Number)
  | string (s : Text)
  | array (items : List Json)
  | object (members : List (Text × Json))

/-- The kind of a document, with its article. -/
def Json.kind : Json → Text
  | null => "null".toList
  | bool _ => "a boolean".toList
  | number _ => "a number".toList
  | string _ => "a string".toList
  | array _ => "an array".toList
  | object _ => "an object".toList

end SqlTemplate
