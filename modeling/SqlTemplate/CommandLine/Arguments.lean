import SqlTemplate.Path

/-!
# Arguments — the words of a command line

A command line names one template and may set each of three options once: the parameters, the
dialect and the settings file. A value follows its option as the next word, after an equals sign,
or, for a short option, directly. Two dashes end the options; a single dash and an empty word are
templates like any other, but the word `help` is none unless the options have ended.

* `Arguments.Word.ofText` says what a word is;
* `Arguments.parse?` reads all words, and has no answer where they are no command line.
-/

namespace SqlTemplate.CommandLine

/-- What a command line asks for. -/
structure Arguments where
  template : Text
  params : Text
  dialect : Option Text
  config : Option Path
deriving DecidableEq, Repr

namespace Arguments

/-- The options. -/
inductive Choice where
  | params
  | dialect
  | config
deriving DecidableEq, Repr

/-- The option of a long name. -/
def Choice.ofLong? (name : Text) : Option Choice :=
  if name = "params".toList then some params
  else if name = "dialect".toList then some dialect
  else if name = "config".toList then some config
  else none

/-- The option of a letter. -/
def Choice.ofShort? (letter : Char) : Option Choice :=
  if letter = 'p' then some params
  else if letter = 'c' then some config
  else none

/-- What a word of a command line is. -/
inductive Word where
  | template (text : Text)
  | endOfOptions
  /-- An option with its value. -/
  | setting (choice : Choice) (value : Text)
  /-- An option whose value is the next word. -/
  | pending (choice : Choice)
  | unknown
deriving DecidableEq, Repr

/-- The meaning of a word. -/
def Word.ofText : Text → Word
  | ['-', '-'] => endOfOptions
  | '-' :: '-' :: rest =>
    match rest.span (· != '=') with
    | (name, []) => (Choice.ofLong? name).elim unknown pending
    | (name, _ :: value) => (Choice.ofLong? name).elim unknown (setting · value)
  | ['-', letter] => (Choice.ofShort? letter).elim unknown pending
  | '-' :: letter :: '=' :: value => (Choice.ofShort? letter).elim unknown (setting · value)
  | '-' :: letter :: value => (Choice.ofShort? letter).elim unknown (setting · value)
  | ['h', 'e', 'l', 'p'] => unknown
  | text => template text

/-- What has been read of a command line. -/
structure Draft where
  template : Option Text
  params : Option Text
  dialect : Option Text
  config : Option Path

namespace Draft

/-- The template, once. -/
def addTemplate (draft : Draft) (text : Text) : Option Draft :=
  if draft.template.isSome then none else some { draft with template := some text }

/-- The value of an option, once. -/
def set (draft : Draft) (value : Text) : Choice → Option Draft
  | .params => if draft.params.isSome then none else some { draft with params := some value }
  | .dialect => if draft.dialect.isSome then none else some { draft with dialect := some value }
  | .config => if draft.config.isSome then none else some { draft with config := some value }

/-- The words after those read. -/
def read (draft : Draft) : List Text → Option Draft
  | [] => some draft
  | word :: rest =>
    match Word.ofText word with
    | .template text => (draft.addTemplate text).bind fun draft => draft.read rest
    | .endOfOptions => rest.foldlM addTemplate draft
    | .setting choice value => (draft.set value choice).bind fun draft => draft.read rest
    | .pending choice =>
      match rest with
      | [] => none
      | value :: rest => (draft.set value choice).bind fun draft => draft.read rest
    | .unknown => none

end Draft

/-- What the words of a command line ask for; the parameters are an empty list where none are
    given. -/
def parse? (words : List Text) : Option Arguments := do
  let draft ← Draft.read ⟨none, none, none, none⟩ words
  let template ← draft.template
  return ⟨template, draft.params.getD "[]".toList, draft.dialect, draft.config⟩

end Arguments
end SqlTemplate.CommandLine
