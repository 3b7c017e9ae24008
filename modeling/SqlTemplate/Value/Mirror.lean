import Mathlib.Data.List.Forall2
import SqlTemplate.Binary64.Rounding
import SqlTemplate.Json
import SqlTemplate.Value

/-!
# Mirrors — which values stand for which JSON documents

The value of a document looks like the document: the same items in the same places, the same names
in the same order, the same strings, and the same numbers as far as 64 bits hold them.

* `Value.Mirrors` is that relation, one rule for each kind of document and number;
* `Value.entries` and `Value.Within` are the values inside a value, directly and to every depth.
-/

namespace SqlTemplate.Value

/-- A value mirrors a document. A natural number that no integer of 64 bits with sign is equal to
    becomes the float nearest to it, which has to be finite. -/
inductive Mirrors : Json → Value → Prop where
  | null : Mirrors .null .null
  | bool (b : Bool) : Mirrors (.bool b) (.bool b)
  | natural {n : UInt64} {i : Int64} (h : i.toInt = n.toNat) :
      Mirrors (.number (.natural n)) (.int i)
  | beyond {n : UInt64} (h : 0x8000000000000000 ≤ n.toNat)
      (hfinite : (Binary64.ofNat n.toNat).isFinite = true) :
      Mirrors (.number (.natural n)) (.float (.ofNat n.toNat))
  | negative (n : Int64) (below : n < 0) : Mirrors (.number (.negative n below)) (.int n)
  | real (x : Binary64) (finite : x.isFinite = true) : Mirrors (.number (.real x finite)) (.float x)
  | string (s : Text) : Mirrors (.string s) (.string s)
  | array {items : List Json} {values : List Value} (h : List.Forall₂ Mirrors items values) :
      Mirrors (.array items) (.list values)
  | object {members : List (Text × Json)} {fields : List (Text × Value)}
      (hkeys : Fields.keys members = Fields.keys fields)
      (h : List.Forall₂ Mirrors (members.map Prod.snd) (fields.map Prod.snd)) :
      Mirrors (.object members) (.map fields)

/-- The values directly in a list or map, in order. -/
def entries : Value → List Value
  | list items => items
  | map fields => fields.map Prod.snd
  | _ => []

/-- A value is a part of itself and of every value that has it as a part of an entry. -/
inductive Within : Value → Value → Prop where
  | self (value : Value) : Within value value
  | entry {part entry value : Value} (h : Within part entry) (hentry : entry ∈ value.entries) :
      Within part value

end SqlTemplate.Value
