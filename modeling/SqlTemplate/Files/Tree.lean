import SqlTemplate.Fields
import SqlTemplate.Files
import SqlTemplate.Text.Utf8

/-!
# File trees — directories held in memory

* `Tree.ofList` builds a tree from paths with contents, with the directories they need;
* `Tree.walk` follows the pieces of a path: a dot stays, two dots go up (and stay at the root), and
  a name goes down, which only a directory allows;
* `Tree.files` are the files a run in some working directory sees.
-/

namespace SqlTemplate

/-- A file or a directory with its children by name. -/
inductive Tree where
  | file (content : Text)
  | directory (children : List (Text × Tree))

namespace Tree

/-- The children of a directory; a file has none. -/
def children : Tree → List (Text × Tree)
  | file _ => []
  | directory children => children

/-! ## Building -/

/-- The children with a file at the end of the pieces, or a directory if there is no content;
    directories on the way are made where they are missing. -/
def insert (content? : Option Text) : (pieces : List Text) → List (Text × Tree) →
    List (Text × Tree)
  | [], siblings => siblings
  | [name], siblings =>
    match content?, Fields.get? name siblings with
    | some content, _ => Fields.insert name (file content) siblings
    | none, some _ => siblings
    | none, none => Fields.insert name (directory []) siblings
  | name :: rest, siblings =>
    let inner := (Fields.get? name siblings).elim [] children
    Fields.insert name (directory (insert content? rest inner)) siblings

/-- The tree of files with contents, and of directories where there is none. -/
def ofList (paths : List (Path × Option Text)) : Tree :=
  directory <| paths.foldl (fun siblings (path, content?) =>
    insert content? ((Path.pieces path).filter fun piece => !Path.isIdle piece) siblings) []

/-! ## Looking up -/

/-- The greatest number of bytes in a name. -/
def nameLimit : Nat := 255

/-- The greatest number of bytes in a path. -/
def pathLimit : Nat := 4095

/-- Where pieces lead from a directory or file, given the directories around it with their names,
    the innermost first; at the end come the names that lead there. -/
def walk : (around : List (Text × Tree)) → (name : Text) → Tree → (pieces : List Text) →
    Except ReadFault (List Text × Tree)
  | around, name, here, [] => .ok ((name :: around.map Prod.fst).reverse.tail, here)
  | _, _, file _, _ :: _ => .error .notADirectory
  | around, name, directory children, piece :: rest =>
    if Path.isIdle piece then walk around name (directory children) rest
    else if piece = ['.', '.'] then
      match around with
      | [] => walk [] name (directory children) rest
      | (outerName, outer) :: around => walk around outerName outer rest
    else if nameLimit < piece.byteLength then .error .nameTooLong
    else
      match Fields.get? piece children with
      | none => .error .missing
      | some child => walk ((name, directory children) :: around) piece child rest

/-- Where a path leads from a working directory, with the names that lead there from the root. -/
def follow (root : Tree) (workingDirectory path : Path) : Except ReadFault (List Text × Tree) :=
  if path = [] then .error .missing
  else if '\x00' ∈ path then .error .zeroCharacter
  else if pathLimit < path.byteLength then .error .nameTooLong
  else walk [] [] root (Path.pieces (workingDirectory.join path))

/-- The path without dots that leads from the root to the same place as another. -/
def canonical (root : Tree) (path : Path) : Except ReadFault Path := do
  let (names, _) ← root.follow ['/'] path
  return '/' :: Path.ofPieces names

/-- The files that a run in a working directory sees. -/
def files (root : Tree) (workingDirectory : Path) : Files := fun path =>
  match root.follow workingDirectory path with
  | .error reason => .absent reason
  | .ok (_, file content) => .file (.ok content)
  | .ok (_, directory _) => .directory

end Tree
end SqlTemplate
