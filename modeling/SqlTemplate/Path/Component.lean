import SqlTemplate.Path

/-!
# Components — what a path is made of, and which paths lie above it

What a path says is its way, one component after the other: the root if it begins there, and the
names of directories. Separators that stand together and dots between them say nothing. The paths
above it say a shorter way, and are written as the path itself is, up to the end of a component.

* `Path.components` is the way that a path says;
* `Path.Shortest` is the beginning of a path that says some way and ends with it;
* `Path.Above` relates a path to those above it, by the number of levels between them.
-/

namespace SqlTemplate.Path

/-- The component that the first piece makes: nothing stands before the slash of a root. -/
def origin (first : Text) : Text :=
  if first = [] then ['/'] else first

/-- The components of a path. A dot at the beginning is one, other idle pieces are not. -/
def components (path : Path) : List Text :=
  if path = [] then []
  else
    match pieces path with
    | [] => []
    | first :: rest => origin first :: rest.filter fun piece => !isIdle piece

/-- The shortest beginning of a path that has some components. -/
structure Shortest (path : Path) (kept : List Text) (upper : Path) : Prop where
  beginning : upper <+: path
  components : upper.components = kept
  least : ∀ other : Path, other <+: path → other.components = kept → upper.length ≤ other.length

/-- A path lies some levels above another one. -/
inductive Above (path : Path) : (level : Nat) → Path → Prop where
  /-- A path is where it is, however it is written. -/
  | self : Above path 0 path
  /-- Each level above drops one component; the root is never dropped. -/
  | cut {kept dropped : List Text} {upper : Path} (hcut : path.components = kept ++ dropped)
      (hdropped : dropped ≠ []) (hroot : path.isAbsolute = true → kept ≠ [])
      (hupper : path.Shortest kept upper) : Above path dropped.length upper

end SqlTemplate.Path
