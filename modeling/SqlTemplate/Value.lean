import SqlTemplate.Binary64
import SqlTemplate.Fields

/-!
# Values — the parameters of a template

A parameter is a null, a scalar, a list, a map from column names to values, or the skip marker,
which asks for the optional blocks to be dropped and equals nothing but itself.

* `Value.ofPairs` builds a map from pairs with any repetitions, each name once, and
  `Value.ofFields` from fields of another type;
* `Value.same` compares values: of one shape, numbers as numbers, lists in order, and maps as
  the same entries under the same names in any order.
-/

namespace SqlTemplate

/-- A parameter of a template. -/
inductive Value where
  | null
  | bool (b : Bool)
  | int (n : Int64)
  | float (x : Binary64)
  | string (s : Text)
  | list (items : List Value)
  | map (fields : List (Text × Value))
  | skip
deriving Inhabited

namespace Value

/-- The name of a value's shape. -/
def kind : Value → Text
  | null => "null".toList
  | bool _ => "bool".toList
  | int _ => "int".toList
  | float _ => "float".toList
  | string _ => "string".toList
  | list _ => "list".toList
  | map _ => "map".toList
  | skip => "skip marker".toList

/-- Whether a value is the null. -/
def isNull : Value → Bool
  | null => true
  | _ => false

/-- Whether a value is the skip marker. -/
def isSkip : Value → Bool
  | skip => true
  | _ => false

/-- The value that may be missing, with the null in its place if it is. -/
def ofOption (value? : Option Value) : Value :=
  value?.getD null

/-- The map of pairs in which a repeated name keeps its first place and takes its last value. -/
def ofPairs (pairs : List (Text × Value)) : Value :=
  map (Fields.ofPairs pairs)

/-- The map of fields whose entries are converted to values. -/
def ofFields {α : Type} (convert : α → Value) (fields : Fields α) : Value :=
  ofPairs (fields.map fun (name, entry) => (name, convert entry))

/-! ## Comparison -/

mutual

/-- Whether two values are equal as values. -/
def same : Value → Value → Bool
  | null, null => true
  | bool a, bool b => a == b
  | int m, int n => m == n
  | float x, float y => x.same y
  | string s, string t => s == t
  | list xs, list ys => sameItems xs ys
  | map fields, map others => fields.length == others.length && sameFields fields others
  | skip, skip => true
  | _, _ => false

/-- Whether two lists hold equal values in the same places. -/
def sameItems : List Value → List Value → Bool
  | [], [] => true
  | x :: xs, y :: ys => same x y && sameItems xs ys
  | _, _ => false

/-- Whether every field has an equal value under its name among the others. -/
def sameFields : List (Text × Value) → List (Text × Value) → Bool
  | [], _ => true
  | (key, value) :: rest, others =>
    (match Fields.get? key others with
      | some other => same value other
      | none => false) && sameFields rest others

end

end Value
end SqlTemplate
