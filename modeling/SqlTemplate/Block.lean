import SqlTemplate.Span
import SqlTemplate.Text.Utf8

/-!
# Blocks — the optional parts of a template

A block stands between braces. It opens at an opening brace outside every block and closes at the
closing brace that brings the nesting depth back to zero, so inner braces belong to the outer
block. A closing brace outside every block is plain text, and so is everything from an opening
brace that is never closed.

* `Block.spans` finds the closed blocks of a list whose braces a function recognises, so that one
  scan serves characters (`Brace.ofChar?`) and bytes (`Brace.ofByte?`);
* `Block.regions` are the closed blocks of a template as byte ranges of its UTF-8 form;
* `Block.remove` drops the closed blocks, braces and content alike;
* `Block.unwrap` keeps the content and drops the braces;
* `Block.resolve` chooses between the two, and adds no character (`mem_of_mem_resolve`).
-/

namespace SqlTemplate

/-- The two delimiters of a block. -/
inductive Brace where
  | opening
  | closing
deriving DecidableEq, Repr

namespace Brace

/-- The delimiter that a character is. -/
def ofChar? (c : Char) : Option Brace :=
  if c = '\x7b' then some .opening else if c = '\x7d' then some .closing else none

/-- The delimiter that a byte is. -/
def ofByte? (b : UInt8) : Option Brace :=
  if b = 0x7b then some .opening else if b = 0x7d then some .closing else none

end Brace

namespace Block

/-- Where a scan stands: outside every block, or in a block that opened at `start` and has
    `nested` further blocks open inside it. -/
inductive Place where
  | outside
  | inside (start nested : Nat)
deriving DecidableEq, Repr

/-- The closed blocks in the rest of a scan that stands at `position`. -/
def spansFrom {α : Type} (brace? : α → Option Brace) :
    Place → (position : Nat) → List α → List Span
  | _, _, [] => []
  | .outside, position, x :: rest =>
    match brace? x with
    | some .opening => spansFrom brace? (.inside position 0) (position + 1) rest
    | _ => spansFrom brace? .outside (position + 1) rest
  | .inside start nested, position, x :: rest =>
    match brace? x, nested with
    | some .opening, _ => spansFrom brace? (.inside start (nested + 1)) (position + 1) rest
    | some .closing, 0 => ⟨start, position + 1⟩ :: spansFrom brace? .outside (position + 1) rest
    | some .closing, outer + 1 => spansFrom brace? (.inside start outer) (position + 1) rest
    | none, _ => spansFrom brace? (.inside start nested) (position + 1) rest

/-- The closed blocks of a list, braces included, in order. -/
def spans {α : Type} (brace? : α → Option Brace) (items : List α) : List Span :=
  spansFrom brace? .outside 0 items

/-- The closed blocks of a template as ranges of bytes. -/
def regions (template : Text) : List Span :=
  spans Brace.ofByte? template.encode

/-- The template without its closed blocks. -/
def remove (template : Text) : Text :=
  Span.outside 0 (spans Brace.ofChar? template) template

/-- The template without its braces, if it has both an opening and a closing one; a template that
    lacks either is kept as it is. -/
def unwrap (template : Text) : Text :=
  if '\x7b' ∈ template ∧ '\x7d' ∈ template then
    template.filter fun c => (Brace.ofChar? c).isNone
  else
    template

/-- The template with its optional parts dropped or kept. -/
def resolve (dropping : Bool) (template : Text) : Text :=
  if dropping then remove template else unwrap template

/-- Resolving blocks leaves characters of the template only. -/
theorem mem_of_mem_resolve {dropping : Bool} {template : Text} {c : Char}
    (h : c ∈ resolve dropping template) : c ∈ template := by
  cases dropping with
  | true => exact Span.mem_of_mem_outside h
  | false =>
      have hunwrap : c ∈ unwrap template := h
      unfold unwrap at hunwrap
      split at hunwrap
      · exact (List.mem_filter.mp hunwrap).1
      · exact hunwrap

end Block
end SqlTemplate
