import SqlTemplate.CommandLine.Run
import SqlTemplate.Dialect.Spelling

/-!
# Endings — the ways in which a run may end

A run has four stages that may fail: finding the configuration, choosing the dialect, reading the
parameters and compiling. What a run shows of its end is the SQL, or the failure of the first stage
that fails. Here this is said by rules instead of a program: each rule names one way to end with all
that leads there.

* `Run.Chooses` and `Run.NamesUnknown` say which dialect applies, or which name selects none;
* `Run.Ends` are the ways for a run to end;
* `Outcome.Shows` is what is to be seen of an end, and `Outcome.SameEnd` compares two outcomes in
  it;
* `Failure.SameUpTo` relates command lines that agree in all that is looked at before a failure.
-/

namespace SqlTemplate.CommandLine

namespace Run

/-- The configuration of a run, or why there is none. -/
def configuration (complaints : Complaints) (surroundings : Surroundings)
    (arguments : Arguments) : Except Config.Problem Config :=
  (Config.resolve (Config.parse complaints.settings) surroundings.files
    surroundings.workingDirectory arguments.config).2

/-- The dialect of a run is the one named on the command line. Without a name there it is the one
    named in the configuration, and without any name it is MySQL's. -/
inductive Chooses : (named? configured? : Option Text) → Dialect → Prop where
  | named {name : Text} {configured? : Option Text} {dialect : Dialect}
      (answers : dialect.AnswersTo name) : Chooses (some name) configured? dialect
  | configured {name : Text} {dialect : Dialect} (answers : dialect.AnswersTo name) :
      Chooses none (some name) dialect
  | unnamed : Chooses none none .mysql

/-- The name that counts selects no dialect. -/
inductive NamesUnknown : (named? configured? : Option Text) → Text → Prop where
  | named {name : Text} {configured? : Option Text}
      (unknown : ∀ dialect : Dialect, ¬dialect.AnswersTo name) :
      NamesUnknown (some name) configured? name
  | configured {name : Text} (unknown : ∀ dialect : Dialect, ¬dialect.AnswersTo name) :
      NamesUnknown none (some name) name

/-- How a run may end. -/
inductive Ends (complaints : Complaints) (surroundings : Surroundings) (arguments : Arguments) :
    Except Failure Text → Prop where
  | config {problem : Config.Problem}
      (found : configuration complaints surroundings arguments = .error problem) :
      Ends complaints surroundings arguments (.error (.config problem))
  | dialect {config : Config} {name : Text}
      (found : configuration complaints surroundings arguments = .ok config)
      (unknown : NamesUnknown arguments.dialect config.dialect name) :
      Ends complaints surroundings arguments (.error (.unknownDialect name))
  | params {config : Config} {dialect : Dialect} {problem : ParamList.Problem}
      (found : configuration complaints surroundings arguments = .ok config)
      (chosen : Chooses arguments.dialect config.dialect dialect)
      (read : ParamList.parse complaints.json config.effectiveSkipToken arguments.params =
        .error problem) :
      Ends complaints surroundings arguments (.error (.params problem))
  | rejected {config : Config} {dialect : Dialect} {params : List Value} {rejection : Rejection}
      (found : configuration complaints surroundings arguments = .ok config)
      (chosen : Chooses arguments.dialect config.dialect dialect)
      (read : ParamList.parse complaints.json config.effectiveSkipToken arguments.params =
        .ok params)
      (compiled : compile dialect.escape arguments.template params = .error rejection) :
      Ends complaints surroundings arguments (.error (.compilation rejection))
  | done {config : Config} {dialect : Dialect} {params : List Value} {sql : Text}
      (found : configuration complaints surroundings arguments = .ok config)
      (chosen : Chooses arguments.dialect config.dialect dialect)
      (read : ParamList.parse complaints.json config.effectiveSkipToken arguments.params =
        .ok params)
      (compiled : compile dialect.escape arguments.template params = .ok sql) :
      Ends complaints surroundings arguments (.ok sql)

end Run

/-- The words of a command line with all of its parts spelled out. -/
def Arguments.words (arguments : Arguments) : List Text :=
  ["--params".toList, arguments.params] ++
    arguments.dialect.elim [] (fun name => ["--dialect".toList, name]) ++
    arguments.config.elim [] (fun path => ["--config".toList, path]) ++
    ["--".toList, arguments.template]

end SqlTemplate.CommandLine
