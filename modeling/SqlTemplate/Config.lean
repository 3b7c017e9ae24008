import SqlTemplate.Text

/-!
# Configuration — the settings of a project

A project may choose the dialect its strings are escaped in and the string that stands for the skip
marker in a parameter list. Either setting may be left out.
-/

namespace SqlTemplate

/-- The settings of a project. -/
structure Config where
  dialect : Option Text
  skipToken : Option Text
deriving DecidableEq, Repr

namespace Config

/-- Nothing is set. -/
def unset : Config := ⟨none, none⟩

/-- The skip token where none is set. -/
def defaultSkipToken : Text := "__SKIP_BLOCK__".toList

/-- The skip token that applies. -/
def effectiveSkipToken (config : Config) : Text :=
  config.skipToken.getD defaultSkipToken

end Config
end SqlTemplate
