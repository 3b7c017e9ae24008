import SqlTemplate.Config.Settings.Entry
import SqlTemplate.Config.Settings.Token

/-!
# Settings documents — from tokens to entries

A document is a list of entries, each on its own line or separated by commas, and optionally inside
one pair of braces. A content is a scalar, a list in round brackets, an object in braces, a tag, or
attributes that make up an object; the content of an attribute may be an attribute again. Tokens are
read one at a time beside a stack of the contents that are still open.

* `Assembly` is where a reading stands, with its open contents, the innermost first;
* `Assembly.step` reads one token, and refuses one that cannot come there;
* `Document.parse?` reads a whole text.
-/

namespace SqlTemplate.Config.Settings

/-- The entries of a whole text, in order. -/
abbrev Document := Entries

/-! ## Contents that are still open -/

/-- What has been read of an entry. -/
inductive Line where
  | empty
  | key (key : Key)
  | complete (key : Key) (content : Content)
  /-- A key whose content are attributes, the newest first. -/
  | attributes (key : Key) (entries : Entries)

/-- What has been read of an object: where its entries stand, those that are complete, the newest
    first, whether a doc comment waits for the next, and the entry under way. -/
structure Draft where
  scope : Scope
  entries : Entries
  documented : Bool
  line : Line

namespace Draft

/-- An object at its beginning. -/
def start (scope : Scope) : Draft := ⟨scope, [], false, .empty⟩

/-- An entry is complete, unless its key may not come there. -/
def add (draft : Draft) (key : Key) (content : Option Content) : Option Draft :=
  if draft.scope.admits key draft.entries then
    some { draft with entries := (key, content) :: draft.entries, line := .empty }
  else none

/-- The line of an entry ends. -/
def endLine (draft : Draft) : Option Draft :=
  match draft.line with
  | .empty => some draft
  | .key key => draft.add key none
  | .complete key content => draft.add key (some content)
  | .attributes key entries => draft.add key (some (.object entries.reverse))

/-- A content is read, which at the beginning of an entry is a key. -/
def read (draft : Draft) (keyAt? : Scope → Option Key) (content : Content) : Option Draft :=
  match draft.line with
  | .empty =>
    (keyAt? draft.scope).map fun key => { draft with documented := false, line := .key key }
  | .key key => some { draft with line := .complete key content }
  | _ => none

/-- An attribute begins. -/
def beginAttribute (draft : Draft) : Option Draft :=
  match draft.line with
  | .key key => some { draft with line := .attributes key [] }
  | .attributes .. => some draft
  | _ => none

/-- The content of an attribute is read. -/
def readAttribute (draft : Draft) (name : Text) (content : Content) : Option Draft :=
  match draft.line with
  | .attributes key entries =>
    some { draft with line := .attributes key ((.name name, some content) :: entries) }
  | _ => none

/-- The entries of an object that ends, unless a doc comment waits. -/
def finish? (draft : Draft) : Option Entries :=
  draft.endLine.bind fun draft => if draft.documented then none else some draft.entries.reverse

end Draft

/-- A content that waits for what is inside it. -/
inductive Frame where
  | object (draft : Draft)
  /-- A list with its items so far, the newest first. -/
  | list (items : List Content)
  | tag (name : Text)
  | attribute (name : Text)

/-- The contents that are still open, the innermost first. -/
abbrev Assembly := List Frame

namespace Assembly

/-- No content stands for a key. -/
def noKey (_ : Scope) : Option Key := none

/-- A content is complete, which at the beginning of an entry is a key. -/
def read (keyAt? : Scope → Option Key) (content : Content) : Assembly → Option Assembly
  | .object draft :: outer => (draft.read keyAt? content).map fun draft => .object draft :: outer
  | .list items :: outer => some (.list (content :: items) :: outer)
  | .tag name :: outer =>
    read (fun _ => Key.ofTag? name (some content)) (.tagged name (some content)) outer
  | .attribute name :: .object draft :: outer =>
    (draft.readAttribute name content).map fun draft => .object draft :: outer
  | .attribute name :: outer => read noKey (.object [(.name name, some content)]) outer
  | [] => none

/-- An attribute begins. -/
def beginAttribute (name : Text) : Assembly → Option Assembly
  | .object draft :: outer =>
    draft.beginAttribute.map fun draft => .attribute name :: .object draft :: outer
  | assembly => some (.attribute name :: assembly)

/-- The line of an entry ends. -/
def endLine : Assembly → Option Assembly
  | .object draft :: outer => draft.endLine.map fun draft => .object draft :: outer
  | _ => none

/-- A doc comment is read, which ends an entry before it. -/
def document : Assembly → Option Assembly
  | .object draft :: outer =>
    draft.endLine.map fun draft => .object { draft with documented := true } :: outer
  | .list items :: outer => some (.list items :: outer)
  | _ => none

/-- A reading reads a token, unless it cannot come there. -/
def step (assembly : Assembly) (token : Token) : Option Assembly :=
  match token, assembly with
  | .scalar form text, assembly =>
    assembly.read (fun scope => Key.ofScalar? scope form text) (.scalar text)
  | .unit, assembly => assembly.read (fun _ => Key.ofTag? [] none) .unit
  | .tag name true, assembly => some (.tag name :: assembly)
  | .tag name false, assembly =>
    assembly.read (fun _ => Key.ofTag? name none) (.tagged name none)
  | .attribute name, assembly => assembly.beginAttribute name
  | .openBrace, assembly => some (.object (.start .inner) :: assembly)
  | .closeBrace, .object draft :: outer =>
    draft.finish?.bind fun entries => read noKey (.object entries) outer
  | .openBracket, assembly => some (.list [] :: assembly)
  | .closeBracket, .list items :: outer => read noKey (.list items.reverse) outer
  | .newline, .list items :: outer => some (.list items :: outer)
  | .newline, assembly | .comma, assembly => assembly.endLine
  | .docComment, assembly => assembly.document
  | _, _ => none

/-- The document of a reading that ends here, unless something is left open. -/
def finish? (assembly : Assembly) : Option Document :=
  match assembly with
  | [.object draft] => draft.finish?
  | _ => none

end Assembly

namespace Document

/-- The tokens of a document's entries, without the braces around them if it has some, and where
    they stand. -/
def unwrap? (tokens : List Token) : Option (Scope × List Token) :=
  match tokens.dropWhile (· == .newline) with
  | .openBrace :: rest =>
    match rest.reverse.dropWhile (· == .newline) with
    | .closeBrace :: inner => some (.braces, inner.reverse)
    | _ => none
  | _ => some (.file, tokens)

/-- The document that tokens make up. -/
def ofTokens? (tokens : List Token) : Option Document :=
  (unwrap? tokens).bind fun (scope, tokens) =>
    (tokens.foldlM Assembly.step [.object (.start scope)]).bind Assembly.finish?

/-- The document of a text. -/
def parse? (text : Text) : Option Document :=
  (Token.ofText? text).bind ofTokens?

end Document
end SqlTemplate.Config.Settings
