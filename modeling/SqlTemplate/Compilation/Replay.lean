import SqlTemplate.Compilation

/-!
# Replay — from the events of a compilation to its SQL

The events say where each parameter went, in bytes of the text reached so far. Replaying them needs
no search: `replaceBytes` puts a text in the place of some bytes, and `replay` does so for one event
after the other. A position out of range has no replay.

What the events ought to say is a relation of its own, on texts instead of bytes:

* `Event.argument?` is the parameter that an event is about, with its placeholder;
* `Reaches` takes a text through events that are all true of the text reached before them;
* `passed` is how many parameters a compilation has got through when it ends.
-/

namespace SqlTemplate

/-- The position and the placeholder of the parameter that an event is about. -/
def Event.argument? : Event → Option (Nat × Placeholder)
  | .substituting index placeholder _ => some (index, placeholder)
  | .noPlaceholder index placeholder => some (index, placeholder)
  | _ => none

namespace Compilation

/-- Bytes with `length` of them from `position` on replaced. -/
def replaceBytes (bytes : List UInt8) (position length : Nat) (replacement : List UInt8) :
    Option (List UInt8) :=
  if position + length ≤ bytes.length then
    some (bytes.take position ++ replacement ++ bytes.drop (position + length))
  else none

/-- The bytes after the events, where `written` is the text of the parameter at an index. -/
def replay (written : Nat → Text) (bytes : List UInt8) : List Event → Option (List UInt8)
  | [] => some bytes
  | .substituting index placeholder position :: events =>
    (replaceBytes bytes position placeholder.token.byteLength (written index).encode).bind
      fun bytes => replay written bytes events
  | _ :: events => replay written bytes events

/-- The text written for the parameter at an index, where it has one. -/
def written (escape : Escaper) (params : List Value) (index : Nat) : Text :=
  match params[index]?.bind (Param.classify? params.length) with
  | some param => (param.text escape).toOption.getD []
  | none => []

/-- Events about parameters lead from one text to another: a substitution names the byte position of
    the first occurrence of its placeholder in the text of that moment, and an event that misses its
    placeholder comes where there is none. -/
inductive Reaches (written : Nat → Text) : Text → List Event → Text → Prop where
  | done (text : Text) : Reaches written text [] text
  | substituting {before after : Text} {placeholder : Placeholder}
      (first : ∀ front back, before ++ (placeholder.token ++ after) =
        front ++ (placeholder.token ++ back) → before.length ≤ front.length)
      {index : Nat} {events : List Event} {sql : Text}
      (rest : Reaches written (before ++ (written index ++ after)) events sql) :
      Reaches written (before ++ (placeholder.token ++ after))
        (.substituting index placeholder before.byteLength :: events) sql
  | noPlaceholder {text : Text} {placeholder : Placeholder}
      (missing : ∀ front back, text ≠ front ++ (placeholder.token ++ back))
      {index : Nat} {events : List Event} {sql : Text}
      (rest : Reaches written text events sql) :
      Reaches written text (.noPlaceholder index placeholder :: events) sql

/-- How many parameters a compilation has got through when it ends: all of them, or those before the
    one that is rejected. -/
def passed (params : List Value) : Except Rejection Text → Nat
  | .ok _ => params.length
  | .error rejection => rejection.index

end Compilation
end SqlTemplate
