import SqlTemplate.Compilation.Replay
import SqlTemplate.Text.Slice

/-!
# Byte by byte — a compilation that checks every cut

A compilation can be carried out on the UTF-8 form of its template: blocks are found by counting
braces among the bytes, and what is kept, dropped or replaced is a range of bytes. Here every
subtraction and every cut is checked, and where one is not possible there is no result.

* `Block.Scanner` counts how many braces are open;
* `Block.cut?` puts together the slices between ranges, and `Block.removeBytes?` those between the
  blocks that a scanner finds;
* `Compilation.fillBytes?` replaces ranges of bytes;
* `Compilation.bytes?` is the whole compilation.
-/

namespace SqlTemplate

namespace Block

/-- How many braces are open, where the first of them stands, and the blocks found so far. -/
structure Scanner where
  depth : Nat
  start : Nat
  found : List Span
deriving DecidableEq, Repr

namespace Scanner

/-- A scanner that has seen nothing. -/
def initial : Scanner := ⟨0, 0, []⟩

/-- One less than a number, if it is not zero. -/
def less? : Nat → Option Nat
  | 0 => none
  | n + 1 => some n

/-- The scanner behind the byte at a position. -/
def step? (scanner : Scanner) (position : Nat) (b : UInt8) : Option Scanner :=
  match Brace.ofByte? b with
  | some .opening =>
    some
      { scanner with
        start := if scanner.depth = 0 then position else scanner.start
        depth := scanner.depth + 1 }
  | some .closing =>
    if 0 < scanner.depth then do
      let depth ← less? scanner.depth
      let block : Span := ⟨scanner.start, position + 1⟩
      return { scanner with
        depth
        found := if depth = 0 then scanner.found ++ [block] else scanner.found }
    else some scanner
  | none => some scanner

/-- The scanner behind all bytes, the first of which is at a position. -/
def run? (scanner : Scanner) : (position : Nat) → Bytes → Option Scanner
  | _, [] => some scanner
  | position, b :: bytes =>
    (scanner.step? position b).bind fun next => next.run? (position + 1) bytes

end Scanner

/-- The bytes from a position on, without those of the ranges. -/
def cut? (bytes : Bytes) : (position : Nat) → List Span → Option Bytes
  | position, [] => bytes.slice? position bytes.length
  | position, span :: spans => do
    let kept ← bytes.slice? position span.start
    let others ← cut? bytes span.stop spans
    return kept ++ others

/-- The bytes of a template without its blocks. -/
def removeBytes? (bytes : Bytes) : Option Bytes := do
  let scanner ← Scanner.run? .initial 0 bytes
  cut? bytes 0 scanner.found

end Block

namespace Compilation

/-- Bytes with a part replaced whose ends may be cut. -/
def replaceSlice? (bytes : Bytes) (position length : Nat) (replacement : Bytes) : Option Bytes :=
  if bytes.isBoundary position && bytes.isBoundary (position + length) then
    replaceBytes bytes position length replacement
  else none

/-- How the filling of a text ends, on its bytes. -/
def fillBytes? (escape : Escaper) (bytes : Bytes) :
    List (Nat × Param) → Option (Except Rejection Bytes)
  | [] => some (.ok bytes)
  | (index, param) :: rest =>
    match param.text escape with
    | .error fault => some (.error ⟨index, fault⟩)
    | .ok written =>
      let token := param.placeholder.token.encode
      match Bytes.find? token bytes with
      | some position =>
        (replaceSlice? bytes position token.length written.encode).bind fun next =>
          fillBytes? escape next rest
      | none => fillBytes? escape bytes rest

/-- How the compilation of a template ends, on its bytes. -/
def bytes? (escape : Escaper) (template : Text) (params : List Value) :
    Option (Except Rejection Bytes) :=
  if params.isEmpty then some (.ok template.encode)
  else do
    let resolved ←
      if params.any Value.isSkip then Block.removeBytes? template.encode
      else some (Block.unwrap template).encode
    fillBytes? escape resolved (arguments params)

end Compilation
end SqlTemplate
