import SqlTemplate.Config.Settings.Scalar

/-!
# Entries — keys with what they hold, and which keys may come together

An entry is a key with at most one content. Where entries stand decides what a key may be and which
keys may come after others. Inside another content every scalar is a key as it stands, and no key
comes twice. Around a whole file, with or without braces, a bare key with dots is a path of names,
and a block is no key. With braces no key but a path comes twice. Without braces only a run of
entries counts whose keys have the same first name: in it no key comes twice, none goes on from a
key without an object, and none goes back to a path that has been left.

* `Key.ofScalar?` and `Key.ofTag?` say what is a key;
* `Scope.admits` says whether a key may come after entries;
* `admits_braces_iff` puts the rule inside braces in terms of membership.
-/

namespace SqlTemplate.Config.Settings

/-- What leads to an entry. -/
inductive Key where
  | name (text : Text)
  /-- Names from the outside in. -/
  | path (names : List Text)
  /-- An at sign with a name, which may be empty, and a text attached to it. -/
  | tag (name : Text) (text : Option Text)
deriving DecidableEq, Repr

/-- What an entry holds. -/
inductive Content where
  | unit
  | scalar (text : Text)
  | list (items : List Content)
  | object (entries : List (Key × Option Content))
  /-- A name after an at sign, and a content attached to it. -/
  | tagged (name : Text) (content : Option Content)

/-- Keys with their contents. -/
abbrev Entries := List (Key × Option Content)

/-- Whether a content has entries of its own. -/
def Content.isObject : Content → Bool
  | object _ => true
  | _ => false

/-- Where entries stand. -/
inductive Scope where
  /-- In a file without braces around it. -/
  | file
  /-- Inside the braces around a file. -/
  | braces
  /-- Inside another content. -/
  | inner
deriving DecidableEq, Repr

namespace Key

/-- The key that a scalar is. -/
def ofScalar? (scope : Scope) (form : Form) (text : Text) : Option Key :=
  match scope, form with
  | _, .joined => none
  | .inner, _ => some (.name text)
  | _, .quoted => some (.name text)
  | _, .block => none
  | _, .bare =>
    let names := Text.parts '.' text
    if names.contains [] then none
    else if names.length = 1 then some (.name text)
    else some (.path names)

/-- The key that a tag is, unless its content has parts. -/
def ofTag? (name : Text) (content : Option Content) : Option Key :=
  match content with
  | none | some .unit => some (.tag name none)
  | some (.scalar text) => some (.tag name (some text))
  | _ => none

/-- The names of a key, of which a tag's is the one with its at sign. -/
def names : Key → List Text
  | name text => [text]
  | path names => names
  | tag label _ => [('@' :: label)]

/-- The text that names what a key sets: the first of a path, and what is attached to a tag. -/
def setting? : Key → Option Text
  | name text => some text
  | path names => names.head?
  | tag _ text => text

/-- Whether a key is a path. -/
def isPath : Key → Bool
  | path _ => true
  | _ => false

end Key

/-- Whether names were begun with and then left in a run of entries, the newest first. -/
def Entries.hasLeft (names : List Text) (run : Entries) : Bool :=
  (run.dropWhile fun (key, _) => names.isPrefixOf key.names).any fun (key, _) =>
    names.isPrefixOf key.names

/-- Whether names may come after a run of entries, the newest first. -/
def Entries.admitsNext (names : List Text) (run : Entries) : Bool :=
  (run.all fun (key, content) =>
    key.names ≠ names && (content.any Content.isObject || !key.names.isPrefixOf names)) &&
  (List.range (names.length + 1)).all fun count => !run.hasLeft (names.take count)

/-- Whether a key may come after entries, the newest first. -/
def Scope.admits (scope : Scope) (key : Key) (entries : Entries) : Bool :=
  match scope with
  | .file =>
    Entries.admitsNext key.names
      (entries.takeWhile fun (other, _) => other.names.head? == key.names.head?)
  | .braces | .inner => key.isPath || entries.all fun (other, _) => other ≠ key

/-- Inside braces a key may come unless it is there already; a path may come in any case. -/
theorem admits_braces_iff {key : Key} {entries : Entries} :
    Scope.braces.admits key entries = true ↔ key.isPath = true ∨ key ∉ entries.map Prod.fst := by
  simp only [Scope.admits, Bool.or_eq_true, List.all_eq_true, decide_eq_true_eq]
  refine or_congr_right ⟨fun h hmem => ?_, fun h entry hentry heq => ?_⟩
  · obtain ⟨entry, hentry, heq⟩ := List.mem_map.mp hmem
    exact h entry hentry heq
  · exact h (List.mem_map.mpr ⟨entry, hentry, heq⟩)

end SqlTemplate.Config.Settings
