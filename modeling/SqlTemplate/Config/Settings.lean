import SqlTemplate.Config
import SqlTemplate.Config.Settings.Document

/-!
# Settings files — the text form of a configuration

A settings file is a document whose entries set the dialect and the skip token. Each is set at most
once, by a scalar; an entry without a content leaves it unset. Other entries are passed over.

The rules say which texts are settings files. What is said of a text that is none is the message of
the library that reads it, and no part of the program: it is given as a function of the text.

* `Settings.setting?` picks a setting out of a document;
* `Config.parse?` reads the configuration of a project, and `Config.parse` gives the message where
  there is none.
-/

namespace SqlTemplate.Config

/-- What a document sets under a name, if its entries under that name make sense. -/
def Settings.setting? (name : Text) (document : Settings.Document) : Option (Option Text) :=
  match document.filter fun (key, _) => key.setting? == some name with
  | [] => some none
  | [(.path _, _)] => none
  | [(_, none)] => some none
  | [(_, some (.scalar text))] => some (some text)
  | _ => none

/-- The configuration that a settings file holds. -/
def parse? (text : Text) : Option Config := do
  let document ← Settings.Document.parse? text
  let dialect ← Settings.setting? "dialect".toList document
  let skipToken ← Settings.setting? "skip_token".toList document
  return ⟨dialect, skipToken⟩

/-- The configuration that a settings file holds, or else the complaint about its text. -/
def parse (complaint : Text → Text) (text : Text) : Except Text Config :=
  match parse? text with
  | some config => .ok config
  | none => .error (complaint text)

end SqlTemplate.Config
