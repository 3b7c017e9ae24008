import SqlTemplate.CommandLine.Run

/-!
# The program

Gathers what surrounds a run, asks for its outcome, and shows it.
-/

namespace SqlTemplate.Main

open CommandLine

/-- The fault behind an error of the system. -/
def faultOf (error : IO.Error) : ReadFault :=
  match error with
  | .noFileOrDirectory .. => .missing
  | .permissionDenied .. => .permissionDenied
  | .inappropriateType .. => .notADirectory
  | error => .other error.toString.toList

/-- What a path leads to from the working directory. -/
def entryAt (path : Path) : IO Entry := do
  if path = [] then return .absent .missing
  try
    let directory ← try IO.currentDir catch error =>
      -- an absolute path leads somewhere all the same
      if path.isAbsolute then pure "/" else throw error
    let place := directory / String.ofList path
    match (← place.metadata).type with
    | .dir => return .directory
    | .file =>
      try
        return .file (.ok (← IO.FS.readFile place).toList)
      catch error => return .file (.error (faultOf error))
    | _ => return .absent (.other "not a regular file".toList)
  catch error => return .absent (faultOf error)

/-- The variables of the environment, as the system lists them. -/
def environment : IO (Text → Option Text) := do
  let listing ← try IO.FS.readFile "/proc/self/environ" catch _ => pure ""
  let settings : Fields Text := (Text.parts '\x00' listing.toList).map fun setting =>
    let (name, value) := setting.span (· != '=')
    (name, value.drop 1)
  return fun name => Fields.get? name settings

/-- The directory that a run works in. -/
def workingDirectory : IO (Except ReadFault Path) := do
  try
    return .ok (← IO.currentDir).toString.toList
  catch error => return .error (faultOf error)

/-- The messages of this program's own readers. -/
def complaints : Complaints where
  settings _ := "not a settings file".toList
  json _ := "not JSON".toList

/-- How to use the program. -/
def usage : String :=
  "usage: sqltpl [-p JSON | --params JSON] [--dialect NAME] [-c FILE | --config FILE] TEMPLATE"

/-- Shows an outcome: the log and the report as messages, the SQL as output. -/
def present (outcome : Outcome) : IO UInt32 := do
  for record in outcome.log do
    IO.eprintln (String.ofList record.line)
  match outcome.report with
  | .nothing => pure ()
  | .usage => IO.eprintln usage
  | .failure message => IO.eprintln s!"error: {String.ofList message}"
  IO.print (String.ofList outcome.output)
  return UInt32.ofNat outcome.status

end SqlTemplate.Main

open SqlTemplate in
/-- Runs a command line. -/
def main (words : List String) : IO UInt32 := do
  let words := words.map String.toList
  let workingDirectory ← Main.workingDirectory
  let entries ← (CommandLine.Run.pathsSeen workingDirectory words).mapM fun path =>
    return (path, ← Main.entryAt path)
  let files : Files := fun path => (Fields.get? path entries).getD (.absent .missing)
  let environment ← Main.environment
  Main.present
    (CommandLine.Run.outcome Main.complaints ⟨files, workingDirectory, environment⟩ words)
