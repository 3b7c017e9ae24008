import SqlTemplate.Config
import SqlTemplate.Files

/-!
# Configuration search — which settings file decides

A settings file may be named; otherwise the nearest one from the working directory upwards decides,
and where there is none, nothing is set. The file that decides is the only one read, and what is
wrong with it is the answer. Where no file is named and the system gives no working directory, that
is the answer. What reads the text of a settings file is a parameter throughout, with its messages.

* `Config.load` reads the file at a path;
* `Config.search` finds the nearest file and loads it;
* `Config.resolve` loads a named file or searches, and reports what a search found.
-/

namespace SqlTemplate.Config

/-- The name of settings files. -/
def fileName : Text := "sqltpl.styx".toList

/-- Why there is no configuration. -/
inductive Problem where
  /-- There is no settings file from a directory upwards. -/
  | notFound (start : Path)
  | unreadable (path : Path) (fault : ReadFault)
  /-- The text at a path is no settings file, for a reason that its reader gives. -/
  | invalid (path : Path) (reason : Text)
deriving DecidableEq, Repr

/-- What is said of a problem. -/
def Problem.message : Problem → Text
  | notFound start =>
    "no ".toList ++ fileName ++ " in ".toList ++ start ++ " or any parent directory".toList
  | unreadable path fault =>
    "failed to read ".toList ++ path ++ ": ".toList ++ fault.message
  | invalid path reason => "invalid config in ".toList ++ path ++ ": ".toList ++ reason

/-- What a search reports. -/
inductive Event where
  | loaded (path : Path)
  | usingDefaults
deriving DecidableEq, Repr

/-- The configuration in the file at a path. -/
def load (parse : Text → Except Text Config) (files : Files) (path : Path) :
    Except Problem Config :=
  match files.read path with
  | .error fault => .error (.unreadable path fault)
  | .ok content => (parse content).mapError (.invalid path)

/-- The configuration in the nearest settings file from a directory upwards, and its path. -/
def search (parse : Text → Except Text Config) (files : Files) (start : Path) :
    Except Problem (Config × Path) :=
  match files.nearest? fileName start with
  | none => .error (.notFound start)
  | some path => (load parse files path).map fun config => (config, path)

/-- The configuration of a run, and what its search reports. The working directory is a path, or the
    reason why there is none. -/
def resolve (parse : Text → Except Text Config) (files : Files)
    (workingDirectory : Except ReadFault Path) (named? : Option Path) :
    List Event × Except Problem Config :=
  match named? with
  | some path => ([], load parse files path)
  | none =>
    match workingDirectory with
    | .error fault => ([], .error (.unreadable ['.'] fault))
    | .ok directory =>
      match search parse files directory with
      | .ok (config, path) => ([.loaded path], .ok config)
      | .error (.notFound _) => ([.usingDefaults], .ok unset)
      | .error problem => ([], .error problem)

end SqlTemplate.Config
