import SqlTemplate.Text

/-!
# Paths — names of files, and the directories above them

A path is a text whose pieces are separated by slashes. What lies above a path is read off its text
alone: the last piece is dropped, and with it separators and single dots left at the end.

* `Path.join` appends a piece to a path;
* `Path.ancestors` is the path with everything above it, the nearest first.
-/

namespace SqlTemplate

/-- A path. -/
abbrev Path := Text

namespace Path

/-- The pieces of a path, one more than it has slashes. -/
def pieces (path : Path) : List Text :=
  Text.parts '/' path

/-- Pieces with slashes between them. -/
def ofPieces (pieces : List Text) : Text :=
  Text.join ['/'] pieces

/-- A piece that names nothing: an empty one or a single dot. -/
def isIdle (piece : Text) : Bool :=
  piece == [] || piece == ['.']

/-- Pieces without the idle ones at the end. -/
def trimmed (pieces : List Text) : List Text :=
  (pieces.reverse.dropWhile isIdle).reverse

/-- Whether a path begins at the root. -/
def isAbsolute : Path → Bool
  | '/' :: _ => true
  | _ => false

/-- A path below a directory; an absolute one is itself. -/
def join (directory path : Path) : Path :=
  if path.isAbsolute ∨ directory = [] then path
  else if directory.getLast? = some '/' then directory ++ path
  else directory ++ '/' :: path

/-- The path one level up. The root and the empty path have none, and above a single piece lies the
    empty path. -/
def parent? : Path → Option Path
  | '/' :: body =>
    match trimmed (pieces body) with
    | [] => none
    | named => some ('/' :: ofPieces (trimmed named.dropLast))
  | path =>
    match pieces path with
    | [] => none
    | first :: rest =>
      match trimmed rest with
      | [] => if first = [] then none else some []
      | named => some (ofPieces (first :: trimmed named.dropLast))

/-- A path and up to `levels` paths above it. -/
def ancestorsWithin : (levels : Nat) → Path → List Path
  | 0, path => [path]
  | levels + 1, path =>
    path :: (match parent? path with
      | none => []
      | some parent => ancestorsWithin levels parent)

/-- A path and all paths above it; each is shorter than the one before. -/
def ancestors (path : Path) : List Path :=
  ancestorsWithin path.length path

end Path
end SqlTemplate
