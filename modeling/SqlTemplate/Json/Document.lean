import SqlTemplate.Json.Token

/-!
# JSON documents — the second reading, from tokens to a tree

Tokens are read one at a time beside a stack of the containers that are still open. A name that an
object repeats keeps its first place and takes its last value, and no more than 127 containers may
be open at once.

* `Assembly` is where a reading stands, with its open containers, the innermost first;
* `Assembly.step` reads one token, and refuses one that cannot come there;
* `Json.parse?` reads a whole text.
-/

namespace SqlTemplate.Json

/-- A container that waits for the value inside it to be complete: an array with its items so far,
    the newest first, or an object with its members so far and the name of the next. -/
inductive Frame where
  | array (items : List Json)
  | object (members : List (Text × Json)) (name : Text)

/-- What has to come next. -/
inductive Expectation where
  | value
  /-- A value, or the end of the array that has just begun. -/
  | firstItem
  /-- A name, or the end of the object that has just begun. -/
  | firstName
  /-- A name, after a comma among the members of an object. -/
  | name (members : List (Text × Json))
  | colon (members : List (Text × Json)) (name : Text)
  /-- What follows a complete value. -/
  | after (value : Json)

/-- A reading under way. -/
structure Assembly where
  expectation : Expectation
  frames : List Frame

namespace Assembly

/-- The beginning of a reading. -/
def start : Assembly := ⟨.value, []⟩

/-- The greatest number of containers open at once. -/
def depthLimit : Nat := 127

/-- A value begins inside the frames. -/
def beginValue (frames : List Frame) (token : Token) : Option Assembly :=
  match token with
  | .scalar value => some ⟨.after value, frames⟩
  | .string s => some ⟨.after (.string s), frames⟩
  | .openArray => if frames.length < depthLimit then some ⟨.firstItem, frames⟩ else none
  | .openObject => if frames.length < depthLimit then some ⟨.firstName, frames⟩ else none
  | _ => none

/-- A complete value inside the frames is followed by a token. -/
def afterValue (value : Json) (frames : List Frame) (token : Token) : Option Assembly :=
  match frames, token with
  | .array items :: outer, .comma => some ⟨.value, .array (value :: items) :: outer⟩
  | .array items :: outer, .closeArray => some ⟨.after (.array (value :: items).reverse), outer⟩
  | .object members name :: outer, .comma =>
    some ⟨.name (Fields.insert name value members), outer⟩
  | .object members name :: outer, .closeObject =>
    some ⟨.after (.object (Fields.insert name value members)), outer⟩
  | _, _ => none

/-- A reading reads a token, unless it cannot come there. -/
def step (assembly : Assembly) (token : Token) : Option Assembly :=
  let frames := assembly.frames
  match assembly.expectation, token with
  | .value, token => beginValue frames token
  | .firstItem, .closeArray => some ⟨.after (.array []), frames⟩
  | .firstItem, token => beginValue (.array [] :: frames) token
  | .firstName, .closeObject => some ⟨.after (.object []), frames⟩
  | .firstName, .string name => some ⟨.colon [] name, frames⟩
  | .name members, .string name => some ⟨.colon members name, frames⟩
  | .colon members name, .colon => some ⟨.value, .object members name :: frames⟩
  | .after value, token => afterValue value frames token
  | _, _ => none

/-- The document of a reading that ends here, unless something is left open. -/
def finish? (assembly : Assembly) : Option Json :=
  match assembly.expectation, assembly.frames with
  | .after value, [] => some value
  | _, _ => none

end Assembly

/-- The document that tokens make up. -/
def ofTokens? (tokens : List Token) : Option Json :=
  (tokens.foldlM Assembly.step Assembly.start).bind Assembly.finish?

/-- The document of a text. -/
def parse? (text : Text) : Option Json :=
  (Token.ofText? text).bind ofTokens?

end SqlTemplate.Json
