import SqlTemplate.Value

/-!
# Parameters by shape — which placeholder a value fills

A value's shape, not its position, decides which placeholder it fills and how it is written: a
boolean or integer fills `?d`, a float `?f`, a list or map of values `?a`, an identifier or a list
of them `?#`, and a lone string or a null the bare `?`.

* `Placeholder.token` is the text searched for in a template;
* `Param.classify?` reads off the shape; the skip marker fills nothing and has none;
* `Param.placeholder` is the placeholder a shape fills.
-/

namespace SqlTemplate

/-- The kinds of placeholder. -/
inductive Placeholder where
  | generic
  | integer
  | float
  | values
  | identifiers
deriving DecidableEq, Repr

/-- The text of a placeholder in a template. -/
def Placeholder.token : Placeholder → Text
  | .generic => ['?']
  | .integer => ['?', 'd']
  | .float => ['?', 'f']
  | .values => ['?', 'a']
  | .identifiers => ['?', '#']

/-- A parameter with the role its shape gives it. -/
inductive Param where
  | null
  | bool (b : Bool)
  | int (n : Int64)
  | float (x : Binary64)
  /-- A lone string, written as a literal. -/
  | literal (s : Text)
  /-- A string among several parameters, written as an identifier. -/
  | identifier (s : Text)
  /-- A list of values. -/
  | values (items : List Value)
  /-- A list of identifiers. -/
  | identifiers (items : List Value)
  /-- A map, written as assignments to its names. -/
  | assignments (fields : Fields Value)

namespace Param

/-- The placeholder that a parameter fills. -/
def placeholder : Param → Placeholder
  | null | literal _ => .generic
  | bool _ | int _ => .integer
  | float _ => .float
  | values _ | assignments _ => .values
  | identifier _ | identifiers _ => .identifiers

/-- The role of a list: an empty one and one that begins with an integer hold values, every other
    one holds identifiers. -/
def ofItems (items : List Value) : Param :=
  match items with
  | [] | .int _ :: _ => values items
  | _ => identifiers items

/-- A list holds values or identifiers. -/
theorem ofItems_eq (items : List Value) :
    ofItems items = values items ∨ ofItems items = identifiers items := by
  unfold ofItems
  split
  · exact Or.inl rfl
  · exact Or.inl rfl
  · exact Or.inr rfl

/-- The role of a value among `count` parameters, skip markers counted; the skip marker has
    none. A string is a literal only if it is the one parameter. -/
def classify? (count : Nat) : Value → Option Param
  | .null => some null
  | .bool b => some (bool b)
  | .int n => some (int n)
  | .float x => some (float x)
  | .string s => some (if 1 < count then identifier s else literal s)
  | .list items => some (ofItems items)
  | .map fields => some (assignments fields)
  | .skip => none

/-- The skip marker alone has no role. -/
theorem classify?_eq_none_iff {count : Nat} {value : Value} :
    classify? count value = none ↔ value.isSkip = true := by
  cases value <;> simp [classify?, Value.isSkip]

/-- The number of parameters matters only as one or several. -/
theorem classify?_of_lt {count count' : Nat} (h : 1 < count) (h' : 1 < count') (value : Value) :
    classify? count value = classify? count' value := by
  cases value with
  | string s => rw [classify?, classify?, if_pos h, if_pos h']
  | _ => rfl

/-- It matters only for strings. -/
theorem classify?_of_ne_string {value : Value} (h : ∀ s, value ≠ .string s) (count count' : Nat) :
    classify? count value = classify? count' value := by
  cases value with
  | string s => exact absurd rfl (h s)
  | _ => rfl

end Param
end SqlTemplate
