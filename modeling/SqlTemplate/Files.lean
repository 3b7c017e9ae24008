import SqlTemplate.Path

/-!
# Files — what paths lead to

The files that a run can see are a function from paths to entries: a regular file with its content,
a directory, or nothing, with the reason.

* `Files.read` is the content of a file, or why there is none;
* `Files.nearest?` finds a regular file by name in a directory or above it: the first one counts,
  and directories of that name are passed over.
-/

namespace SqlTemplate

/-- Why a path cannot be read. -/
inductive ReadFault where
  | missing
  | permissionDenied
  | notADirectory
  | isADirectory
  | nameTooLong
  | zeroCharacter
  | notText
  | other (reason : Text)
deriving DecidableEq, Repr

/-- What the system says of a fault. -/
def ReadFault.message : ReadFault → Text
  | missing => "No such file or directory (os error 2)".toList
  | permissionDenied => "Permission denied (os error 13)".toList
  | notADirectory => "Not a directory (os error 20)".toList
  | isADirectory => "Is a directory (os error 21)".toList
  | nameTooLong => "File name too long (os error 36)".toList
  | zeroCharacter => "file name contained an unexpected NUL byte".toList
  | notText => "stream did not contain valid UTF-8".toList
  | other reason => reason

/-- What a path leads to. -/
inductive Entry where
  | file (content : Except ReadFault Text)
  | directory
  | absent (reason : ReadFault)

/-- Whether an entry is a regular file. -/
def Entry.isFile : Entry → Bool
  | file _ => true
  | _ => false

/-- The files that a run can see. -/
abbrev Files := Path → Entry

namespace Files

/-- The content of a file. -/
def read (files : Files) (path : Path) : Except ReadFault Text :=
  match files path with
  | .file content => content
  | .directory => .error .isADirectory
  | .absent reason => .error reason

/-- The paths at which a file of this name may lie, from a directory upwards. -/
def candidates (name : Text) (start : Path) : List Path :=
  start.ancestors.map fun directory => directory.join name

/-- The nearest regular file of this name, from a directory upwards. -/
def nearest? (files : Files) (name : Text) (start : Path) : Option Path :=
  (candidates name start).find? fun path => (files path).isFile

end Files
end SqlTemplate
