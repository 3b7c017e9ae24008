import SqlTemplate.Compilation
import SqlTemplate.Config.Search
import SqlTemplate.Text.Quoted

/-!
# Log records — what a run reports while it works

A record is an event of one of the three parts of a run: the search for settings, the choice of
settings, and the compilation. Each has a level, the part it comes from, a message and named
details.

* `Record.level`, `Record.target` and `Record.fieldNames` are what a filter looks at;
* `Record.line` is the line that shows a record.
-/

namespace SqlTemplate.Log

/-- How much a record matters, and how much a log shows: each level shows those before it too. -/
inductive Level where
  | off
  | error
  | warn
  | info
  | debug
  | trace
deriving DecidableEq, Repr

namespace Level

/-- The place of a level among all. -/
def rank : Level → Nat
  | off => 0
  | error => 1
  | warn => 2
  | info => 3
  | debug => 4
  | trace => 5

/-- All levels. -/
def all : List Level := [off, error, warn, info, debug, trace]

/-- The name of a level. -/
def name : Level → Text
  | off => "OFF".toList
  | error => "ERROR".toList
  | warn => "WARN".toList
  | info => "INFO".toList
  | debug => "DEBUG".toList
  | trace => "TRACE".toList

end Level

/-- What a run reports. -/
inductive Record where
  | config (event : Config.Event)
  | settings (dialect : Dialect) (skipToken : Text)
  | compilation (event : Event)
deriving DecidableEq, Repr

namespace Record

/-- The level of a record. -/
def level : Record → Level
  | compilation (.substituting ..) | compilation (.noPlaceholder ..) => .trace
  | _ => .debug

/-- The part of a run that a record comes from. -/
def target : Record → Text
  | config _ => "sqltpl::config".toList
  | settings .. => "sqltpl".toList
  | compilation _ => "sqltpl::compile".toList

/-- What a record says happened. -/
def message : Record → Text
  | config (.loaded _) => "loaded config".toList
  | config .usingDefaults => "no ".toList ++ Config.fileName ++ " found, using defaults".toList
  | settings .. => "resolved settings".toList
  | compilation (.compiling ..) => "compiling template".toList
  | compilation (.droppingBlocks _) => "skip marker present, dropping blocks".toList
  | compilation (.substituting ..) => "substituting parameter".toList
  | compilation (.noPlaceholder ..) => "no placeholder left for parameter".toList

/-- The named details of a record. -/
def details : Record → Fields Text
  | config (.loaded path) => [("path".toList, path)]
  | config .usingDefaults => []
  | settings dialect skipToken =>
    [("dialect".toList, dialect.name), ("skip_token".toList, skipToken.quoted)]
  | compilation (.compiling length params) =>
    [("len".toList, Numeral.ofNat length), ("params".toList, Numeral.ofNat params)]
  | compilation (.droppingBlocks blocks) => [("blocks".toList, Numeral.ofNat blocks)]
  | compilation (.substituting index placeholder position) =>
    [("index".toList, Numeral.ofNat index), ("token".toList, placeholder.token.quoted),
      ("at".toList, Numeral.ofNat position)]
  | compilation (.noPlaceholder index placeholder) =>
    [("index".toList, Numeral.ofNat index), ("token".toList, placeholder.token.quoted)]

/-- The names of all that a record carries: its message and its details. -/
def fieldNames (record : Record) : List Text :=
  "message".toList :: Fields.keys record.details

/-- What a record says: its message, and its details by name. -/
def text (record : Record) : Text :=
  record.message ++ record.details.flatMap fun (name, value) => ' ' :: (name ++ '=' :: value)

/-- The line of a record. -/
def line (record : Record) : Text :=
  record.level.name ++ ' ' :: (record.target ++ ": ".toList ++ record.text)

end Record
end SqlTemplate.Log
