import SqlTemplate.Block
import SqlTemplate.Rendering

/-!
# Compilation — from a template and its parameters to SQL

A template without parameters is its own SQL, braces included. Otherwise its blocks are resolved,
dropped if some parameter is the skip marker and unwrapped if none is, and then each parameter in
turn replaces the first occurrence of its placeholder in the text reached so far. A parameter whose
placeholder no longer occurs is left out. A parameter that has no text rejects the call.

* `Compilation.fill` puts parameters into a text, one after the other;
* `Compilation.ofTemplate` is the whole compilation, with the events reported on the way;
* `compile` is its result alone.
-/

namespace SqlTemplate

/-- A parameter that cannot be written, by its position in the list. -/
structure Rejection where
  index : Nat
  fault : Fault
deriving DecidableEq, Repr

namespace Rejection

/-- What is said of a parameter at a position and the kind of its fault. -/
def messageOf (index : Nat) (kind : Text) : Text :=
  "invalid parameter type at index ".toList ++ Numeral.ofNat index ++ ": ".toList ++ kind

/-- What is said of a rejected call. -/
def message (rejection : Rejection) : Text :=
  messageOf rejection.index rejection.fault.kind

end Rejection

/-- What a compilation reports while it runs. -/
inductive Event where
  /-- It begins, with a template of so many bytes and so many parameters. -/
  | compiling (length params : Nat)
  /-- The template's closed blocks, so many, are dropped. -/
  | droppingBlocks (blocks : Nat)
  /-- A parameter replaces its placeholder at a byte position of the text reached so far. -/
  | substituting (index : Nat) (placeholder : Placeholder) (position : Nat)
  /-- A parameter finds no placeholder. -/
  | noPlaceholder (index : Nat) (placeholder : Placeholder)
deriving DecidableEq, Repr

/-- The events of a compilation, in order, and how it ends. -/
structure Compilation where
  events : List Event
  result : Except Rejection Text

namespace Compilation

/-- The compilation that reports one event and goes on. -/
def report (event : Event) (next : Compilation) : Compilation :=
  { next with events := event :: next.events }

/-- The parameters that fill a placeholder, with their positions. -/
def arguments (params : List Value) : List (Nat × Param) :=
  params.zipIdx.filterMap fun (value, index) =>
    (Param.classify? params.length value).map fun param => (index, param)

/-- The compilation of a text whose blocks are resolved. -/
def fill (escape : Escaper) (sql : Text) : List (Nat × Param) → Compilation
  | [] => ⟨[], .ok sql⟩
  | (index, param) :: rest =>
    match param.text escape with
    | .error fault => ⟨[], .error ⟨index, fault⟩⟩
    | .ok written =>
      match sql.splitFirst? param.placeholder.token with
      | some (before, after) =>
        report (.substituting index param.placeholder before.byteLength)
          (fill escape (before ++ written ++ after) rest)
      | none => report (.noPlaceholder index param.placeholder) (fill escape sql rest)

/-- The compilation of a template. -/
def ofTemplate (escape : Escaper) (template : Text) (params : List Value) : Compilation :=
  if params.isEmpty then ⟨[], .ok template⟩
  else
    let dropping := params.any Value.isSkip
    let filled := fill escape (Block.resolve dropping template) (arguments params)
    report (.compiling template.byteLength params.length)
      (if dropping then report (.droppingBlocks (Block.regions template).length) filled
      else filled)

end Compilation

/-- The SQL of a template and its parameters. -/
def compile (escape : Escaper) (template : Text) (params : List Value) : Except Rejection Text :=
  (Compilation.ofTemplate escape template params).result

end SqlTemplate
