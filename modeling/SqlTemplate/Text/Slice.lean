import SqlTemplate.Span
import SqlTemplate.Text.Utf8

/-!
# Slices — cutting the UTF-8 form of a text

Who works on the bytes of a text may cut them between characters only. A byte shows by itself
whether it begins a character or goes on with one, so a position can be tested without decoding.

* `Text.Between` says which positions lie between characters, and `Bytes.isBoundary` is the test;
* `Bytes.slice?` takes a part whose ends pass the test, and there is none for other ends;
* `Bytes.find?` is the first position at which some bytes occur.
-/

namespace SqlTemplate

/-- Whether a position of bytes lies between two characters of a text, or at one of its ends. -/
def Text.Between (text : Text) (position : Nat) : Prop :=
  ∃ front behind, text = front ++ behind ∧ position = front.byteLength

/-- A row of bytes. -/
abbrev Bytes := List UInt8

namespace Bytes

/-- Whether a byte goes on with a character that an earlier byte begins. -/
def goesOn (b : UInt8) : Bool :=
  0x80 ≤ b.toNat && b.toNat < 0xc0

/-- Whether a position in the bytes of a text may be cut. -/
def isBoundary (bytes : Bytes) (position : Nat) : Bool :=
  position == 0 ||
    match bytes[position]? with
    | some b => !goesOn b
    | none => position == bytes.length

/-- The part from one position up to another, if they are in order and may be cut. -/
def slice? (bytes : Bytes) (start stop : Nat) : Option Bytes :=
  if start ≤ stop ∧ isBoundary bytes start = true ∧ isBoundary bytes stop = true then
    some (Span.slice ⟨start, stop⟩ bytes)
  else none

/-- The first position at which a pattern occurs. -/
def find? (pattern : Bytes) : Bytes → Option Nat
  | [] => if pattern = [] then some 0 else none
  | b :: bytes =>
    if pattern.isPrefixOf (b :: bytes) then some 0 else (find? pattern bytes).map (· + 1)

end Bytes
end SqlTemplate
