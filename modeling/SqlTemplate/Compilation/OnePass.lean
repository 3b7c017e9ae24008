import SqlTemplate.Compilation

/-!
# One pass — where parameters go, read off the template alone

Each parameter in turn claims the first place of the resolved template where its placeholder occurs
and which no earlier parameter has claimed. Then the claimed places are filled, all at once.

* `claims` are the claimed places with the texts for them;
* `filled` is the template with those places filled.
-/

namespace SqlTemplate.OnePass

/-- A place in a text, with the length of what stands there and the text to put there. -/
structure Claim where
  position : Nat
  length : Nat
  written : Text
deriving DecidableEq, Repr

/-- Whether a token occurs in a text at a position. -/
def occursAt (text token : Text) (position : Nat) : Bool :=
  (Text.after? (text.drop position) token).isSome

/-- The first place of a token that is not claimed yet. -/
def place? (text token : Text) (claimed : List Claim) : Option Nat :=
  (List.range text.length).find? fun position =>
    occursAt text token position && claimed.all fun claim => claim.position != position

/-- The claims of tokens with the texts for them, in order, after those made before. -/
def claims (text : Text) : (claimed : List Claim) → List (Text × Text) → List Claim
  | claimed, [] => claimed
  | claimed, (token, written) :: rest =>
    match place? text token claimed with
    | some position => claims text (claimed ++ [⟨position, token.length, written⟩]) rest
    | none => claims text claimed rest

/-- The text from a position on with the claimed places filled; `skipped` characters of a filled
    place are still to be left out. -/
def filledFrom (claimed : List Claim) : (position skipped : Nat) → Text → Text
  | _, _, [] => []
  | position, skipped + 1, _ :: text => filledFrom claimed (position + 1) skipped text
  | position, 0, c :: text =>
    match claimed.find? fun claim => claim.position == position with
    | some claim => claim.written ++ filledFrom claimed (position + 1) (claim.length - 1) text
    | none => c :: filledFrom claimed (position + 1) 0 text

/-- The text with tokens claimed and filled. -/
def filled (text : Text) (arguments : List (Text × Text)) : Text :=
  filledFrom (claims text [] arguments) 0 0 text

end SqlTemplate.OnePass
