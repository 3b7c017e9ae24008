import SqlTemplate.Binary64.Rounding
import SqlTemplate.Json
import SqlTemplate.Text.Numeral
import SqlTemplate.Value

/-!
# Values of JSON documents

A document becomes a value, to every depth: arrays become lists, and objects become maps that take
their members one after the other.

* `Value.ofNumber` makes an integer of a number that is one of 64 bits with sign, and otherwise a
  float, which has to be finite;
* `Value.Formless` is a number with neither form, for which the whole document is refused;
* `Value.ofJson` is the value of a document.
-/

namespace SqlTemplate.Value

/-- A number that is neither an integer nor a finite float, by its text. -/
structure Formless where
  number : Text
deriving DecidableEq, Repr

/-- What is said of a number that is neither an integer nor a finite float. -/
def formlessMessage (number : Text) : Text :=
  "number ".toList ++ number ++ " has no integer or float form".toList

/-- The value of a number. -/
def ofNumber : Json.Number → Except Formless Value
  | .natural n =>
    if n < 0x8000000000000000 then .ok (int (.ofNat n.toNat))
    else
      let x := Binary64.ofNat n.toNat
      if x.isFinite then .ok (float x) else .error ⟨Numeral.ofNat n.toNat⟩
  | .negative n _ => .ok (int n)
  | .real x _ => .ok (float x)

mutual

/-- The value of a document; the first number without a form is reported. -/
def ofJson : Json → Except Formless Value
  | .null => .ok null
  | .bool b => .ok (bool b)
  | .number n => ofNumber n
  | .string s => .ok (string s)
  | .array items => list <$> ofItems items
  | .object members => ofPairs <$> ofMembers members

/-- The values of the items of an array. -/
def ofItems : List Json → Except Formless (List Value)
  | [] => .ok []
  | item :: rest => do
    let value ← ofJson item
    let values ← ofItems rest
    return value :: values

/-- The members of an object with their values. -/
def ofMembers : List (Text × Json) → Except Formless (List (Text × Value))
  | [] => .ok []
  | (name, member) :: rest => do
    let value ← ofJson member
    let values ← ofMembers rest
    return (name, value) :: values

end

/-- The items of an array are converted one after the other. -/
theorem ofItems_eq_mapM (items : List Json) : ofItems items = items.mapM ofJson := by
  induction items with
  | nil => rfl
  | cons item rest ih => rw [ofItems, List.mapM_cons, ih]

/-- The members of an object are converted one after the other, and keep their names. -/
theorem ofMembers_eq_mapM (members : List (Text × Json)) :
    ofMembers members = members.mapM fun member => (member.1, ·) <$> ofJson member.2 := by
  induction members with
  | nil => rfl
  | cons member rest ih =>
      rw [ofMembers, List.mapM_cons, ih]
      cases ofJson member.2 <;> rfl

end SqlTemplate.Value
