import SqlTemplate.CommandLine.Arguments
import SqlTemplate.Config.Settings
import SqlTemplate.EnvFile
import SqlTemplate.Log.Filter
import SqlTemplate.ParamList

/-!
# Runs — one command line from its words to its outcome

A run goes through stages in order: it finds the configuration, chooses the dialect, reads the
parameters and compiles the template. The first stage that fails ends the run and gives the report;
otherwise the SQL is written with a line feed after it.

* `Surroundings` are what a run finds around it, at one moment; a run changes nothing of it;
* `Complaints` are the messages of the libraries that read settings files and JSON, which are passed
  on as they are;
* `Run.stages` are the stages after the words are read, with the records made on the way;
* `Run.outcome` is what a run shows: its exit status, its output, its report and its log.

Left out are what the reader of the command line prints where the words are no command line or ask
for help (`Report.usage` stands for all of it), the colour and times of messages, words, paths and
variables that are not Unicode, and output that cannot be written.
-/

namespace SqlTemplate.CommandLine

/-- What the libraries say of a text that they refuse. -/
structure Complaints where
  /-- Of a text that is no settings file. -/
  settings : Text → Text
  /-- Of a text that is not JSON. -/
  json : Text → Text

/-- What surrounds a run: the files it sees, the directory it works in or the reason why there is
    none, and the variables of its environment. -/
structure Surroundings where
  files : Files
  workingDirectory : Except ReadFault Path
  environment : Text → Option Text

/-- Why a run yields no SQL. -/
inductive Failure where
  | config (problem : Config.Problem)
  | unknownDialect (name : Text)
  | params (problem : ParamList.Problem)
  | compilation (rejection : Rejection)
deriving DecidableEq, Repr

/-- What is said of a failure. -/
def Failure.message : Failure → Text
  | config problem => problem.message
  | unknownDialect name => Dialect.unknownMessage name
  | params problem => problem.message
  | compilation rejection => rejection.message

/-- What a run reports apart from its log. -/
inductive Report where
  | nothing
  /-- How to use the program, where the words are no command line. -/
  | usage
  | failure (message : Text)
deriving DecidableEq, Repr

/-- What a run shows. -/
structure Outcome where
  status : Nat
  output : Text
  report : Report
  log : List Log.Record
deriving DecidableEq, Repr

namespace Run

/-- The dialect that applies: the one named on the command line, else the configured one, else the
    default. -/
def dialect (named? configured? : Option Text) : Except Failure Dialect :=
  match named?.or configured? with
  | none => .ok .default
  | some name =>
    match Dialect.ofName? name with
    | some dialect => .ok dialect
    | none => .error (.unknownDialect name)

/-- The stages after the configuration is found. -/
def compileWith (complaints : Complaints) (arguments : Arguments) (config : Config) :
    List Log.Record × Except Failure Text :=
  match dialect arguments.dialect config.dialect with
  | .error failure => ([], .error failure)
  | .ok dialect =>
    let settings := Log.Record.settings dialect config.effectiveSkipToken
    match ParamList.parse complaints.json config.effectiveSkipToken arguments.params with
    | .error problem => ([settings], .error (.params problem))
    | .ok params =>
      let compilation := Compilation.ofTemplate dialect.escape arguments.template params
      (settings :: compilation.events.map .compilation,
        compilation.result.mapError .compilation)

/-- The stages of a run, with their records and how they end. -/
def stages (complaints : Complaints) (surroundings : Surroundings) (arguments : Arguments) :
    List Log.Record × Except Failure Text :=
  let (events, found) := Config.resolve (Config.parse complaints.settings) surroundings.files
    surroundings.workingDirectory arguments.config
  let records := events.map Log.Record.config
  match found with
  | .error problem => (records, .error (.config problem))
  | .ok config =>
    let (later, result) := compileWith complaints arguments config
    (records ++ later, result)

/-- The name of environment files. -/
def envFileName : Text := ".env".toList

/-- The variable that sets the log. -/
def logVariable : Text := "RUST_LOG".toList

/-- The filter of a run's log, set in the environment or else in the nearest environment file. -/
def filter (surroundings : Surroundings) : Log.Filter :=
  let files := surroundings.files
  let environment := surroundings.environment
  .ofSetting <| (environment logVariable).or do
    let directory ← surroundings.workingDirectory.toOption
    let path ← files.nearest? envFileName directory
    let content ← (files.read path).toOption
    EnvFile.get? environment logVariable content

/-- What a run of some words shows. -/
def outcome (complaints : Complaints) (surroundings : Surroundings) (words : List Text) :
    Outcome :=
  match Arguments.parse? words with
  | none => ⟨1, [], .usage, []⟩
  | some arguments =>
    let (records, result) := stages complaints surroundings arguments
    let log := records.filter (filter surroundings).shows
    match result with
    | .ok sql => ⟨0, sql ++ ['\n'], .nothing, log⟩
    | .error failure => ⟨1, [], .failure failure.message, log⟩

/-- The paths that a run of some words may look at. -/
def pathsSeen (workingDirectory : Except ReadFault Path) (words : List Text) : List Path :=
  let named := (Arguments.parse? words).bind Arguments.config
  named.toList ++ workingDirectory.toOption.toList.flatMap fun directory =>
    Files.candidates Config.fileName directory ++ Files.candidates envFileName directory

end Run
end SqlTemplate.CommandLine
