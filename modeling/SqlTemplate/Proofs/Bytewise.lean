import SqlTemplate.Compilation.Bytewise
import SqlTemplate.Proofs.Boundaries
import SqlTemplate.Proofs.Decomposition
import SqlTemplate.Proofs.Trace

/-!
# Byte by byte — no cut splits a character, and none is out of range

A compilation on bytes checks every subtraction, slice and replacement. This file shows that no
check ever fails, and that what comes out is the form of what the compilation of the characters
gives.

* `Block.Scanner.step?_at` and **`Block.Scanner.run?_at`** — a scanner that counts open braces goes
  along with the scan of the blocks, byte by byte, and never counts below zero;
* `Block.Shape.mem_rangesFrom` and `pairwise_rangesFrom` — the ranges of blocks begin and end
  between characters, one behind the other;
* `Block.Shape.cut?_rangesFrom` and **`Block.removeBytes?_encode`** — so what is left of the bytes
  is the form of what is left of the characters;
* **`Compilation.fillBytes?_encode`** — replacing ranges of bytes is filling the text, by induction
  on the parameters;
* **`compile_bytewise`** puts these together.
-/

namespace SqlTemplate

namespace Block

/-! ## The scanner -/

namespace Scanner

/-- A scanner stands at a place: outside of blocks it counts nothing, and in a block it counts one
    more than the blocks open inside it. -/
inductive At : Scanner → Place → Prop where
  | outside (start : Nat) (found : List Span) : At ⟨0, start, found⟩ .outside
  | inside (start nested : Nat) (found : List Span) :
      At ⟨nested + 1, start, found⟩ (.inside start nested)

/-- One byte: the scanner has a next state, which stands where the scan does, and has found what the
    scan has. -/
theorem step?_at {scanner : Scanner} {place : Place} (h : scanner.At place) (position : Nat)
    (b : UInt8) :
    ∃ next place', scanner.step? position b = some next ∧ next.At place' ∧
      ∀ bytes, scanner.found ++ spansFrom Brace.ofByte? place position (b :: bytes) =
        next.found ++ spansFrom Brace.ofByte? place' (position + 1) bytes := by
  cases hbrace : Brace.ofByte? b with
  | none =>
      refine ⟨scanner, place, ?_, h, ?_⟩
      · rw [step?, hbrace]
      · intro bytes
        cases h with
        | outside start found => simp only [spansFrom, hbrace]
        | inside start nested found => simp only [spansFrom, hbrace]
  | some brace =>
      cases brace with
      | opening =>
          cases h with
          | outside start found =>
              refine ⟨⟨1, position, found⟩, .inside position 0, ?_, .inside position 0 found, ?_⟩
              · rw [step?, hbrace]
                rfl
              · intro bytes
                simp only [spansFrom, hbrace]
          | inside start nested found =>
              refine ⟨⟨nested + 2, start, found⟩, .inside start (nested + 1), ?_,
                .inside start (nested + 1) found, ?_⟩
              · rw [step?, hbrace]
                rfl
              · intro bytes
                simp only [spansFrom, hbrace]
      | closing =>
          cases h with
          | outside start found =>
              refine ⟨⟨0, start, found⟩, .outside, ?_, .outside start found, ?_⟩
              · rw [step?, hbrace]
                rfl
              · intro bytes
                simp only [spansFrom, hbrace]
          | inside start nested found =>
              cases nested with
              | zero =>
                  refine ⟨⟨0, start, found ++ [⟨start, position + 1⟩]⟩, .outside, ?_,
                    .outside start _, ?_⟩
                  · rw [step?, hbrace]
                    rfl
                  · intro bytes
                    simp [spansFrom, hbrace]
              | succ outer =>
                  refine ⟨⟨outer + 1, start, found⟩, .inside start outer, ?_,
                    .inside start outer found, ?_⟩
                  · rw [step?, hbrace]
                    rfl
                  · intro bytes
                    simp only [spansFrom, hbrace]

/-- **THE SCANNER**: it never counts below zero, and finds the blocks that the scan finds. -/
theorem run?_at {scanner : Scanner} {place : Place} (h : scanner.At place) (position : Nat)
    (bytes : Bytes) :
    ∃ last, scanner.run? position bytes = some last ∧
      last.found = scanner.found ++ spansFrom Brace.ofByte? place position bytes := by
  induction bytes generalizing scanner place position with
  | nil =>
      refine ⟨scanner, rfl, ?_⟩
      cases h with
      | outside start found => simp [spansFrom]
      | inside start nested found => simp [spansFrom]
  | cons b bytes ih =>
      obtain ⟨next, place', hstep, hnext, hfound⟩ := step?_at h position b
      obtain ⟨last, hrun, hlast⟩ := ih hnext (position + 1)
      refine ⟨last, ?_, ?_⟩
      · rw [run?, hstep]
        exact hrun
      · rw [hlast, hfound]

/-- On a template the scanner finds its regions. -/
theorem run?_encode (template : Text) :
    ∃ last, initial.run? 0 template.encode = some last ∧ last.found = regions template := by
  obtain ⟨last, hrun, hfound⟩ := run?_at (.outside 0 []) 0 template.encode
  exact ⟨last, hrun, hfound⟩

end Scanner

/-! ## The ranges of blocks -/

namespace Shape

/-- Ranges do not begin before the texts and blocks that they are the ranges of. -/
theorem le_of_mem_rangesFrom {position : Nat} {blocks : List (Text × Text)} {range : Span}
    (h : range ∈ rangesFrom position blocks) : position ≤ range.start := by
  induction blocks generalizing position with
  | nil => exact nomatch h
  | cons block blocks ih =>
      obtain ⟨outside, content⟩ := block
      rw [rangesFrom, List.mem_cons] at h
      rcases h with rfl | hrest
      · exact Nat.le_add_right position outside.byteLength
      · have := ih hrest
        omega

/-- Each range ends before the next one begins. -/
theorem pairwise_rangesFrom (position : Nat) (blocks : List (Text × Text)) :
    (rangesFrom position blocks).Pairwise fun range later => range.stop ≤ later.start := by
  induction blocks generalizing position with
  | nil => exact .nil
  | cons block blocks ih =>
      obtain ⟨outside, content⟩ := block
      rw [rangesFrom, List.pairwise_cons]
      constructor
      · intro later hlater
        exact le_of_mem_rangesFrom hlater
      · exact ih _

/-- A range is not empty, and begins and ends between characters. -/
theorem mem_rangesFrom {shape : Shape} (front : Text) {range : Span}
    (h : range ∈ rangesFrom front.byteLength shape.blocks) :
    range.start < range.stop ∧ (front ++ shape.text).Between range.start ∧
      (front ++ shape.text).Between range.stop := by
  obtain ⟨blocks, last, rest⟩ := shape
  induction blocks generalizing front with
  | nil => exact nomatch h
  | cons block blocks ih =>
      obtain ⟨outside, content⟩ := block
      have hcount : 0 < Text.byteLength ('\x7b' :: (content ++ ['\x7d'])) :=
        Nat.lt_of_lt_of_le (Char.utf8Size_pos '\x7b') (Nat.le_add_right _ _)
      rw [text_cons]
      simp only [rangesFrom, List.mem_cons] at h
      generalize '\x7b' :: (content ++ ['\x7d']) = block at h hcount ⊢
      rcases h with rfl | hrest
      · refine ⟨Nat.lt_add_of_pos_right hcount,
          ⟨front ++ outside, block ++ text ⟨blocks, last, rest⟩, ?_, ?_⟩,
          ⟨front ++ outside ++ block, text ⟨blocks, last, rest⟩, ?_, ?_⟩⟩
        · simp
        · rw [Text.byteLength_append]
        · simp
        · rw [Text.byteLength_append, Text.byteLength_append]
      · have hothers := ih (front ++ outside ++ block)
        simp only [Text.byteLength_append, List.append_assoc, ← Nat.add_assoc] at hothers
        exact hothers hrest

/-- What is left of the bytes of a shape is the text outside of its blocks. -/
theorem cut?_rangesFrom (shape : Shape) (front : Text) :
    cut? (front ++ shape.text).encode front.byteLength
        (rangesFrom front.byteLength shape.blocks) = some shape.outside.encode := by
  obtain ⟨blocks, last, rest⟩ := shape
  induction blocks generalizing front with
  | nil =>
      have hlength : (front ++ text ⟨[], last, rest⟩).encode.length =
          front.byteLength + (last ++ rest).byteLength := by
        rw [Text.length_encode, Text.byteLength_append, text_nil]
      have hslice := slice?_encode front (last ++ rest) []
      rw [List.append_nil] at hslice
      rw [rangesFrom, cut?, hlength]
      exact hslice
  | cons block blocks ih =>
      obtain ⟨outside, content⟩ := block
      rw [text_cons, outside_cons]
      simp only [rangesFrom, cut?]
      generalize '\x7b' :: (content ++ ['\x7d']) = block
      have hkept := slice?_encode front outside (block ++ text ⟨blocks, last, rest⟩)
      have hothers := ih (front ++ outside ++ block)
      simp only [Text.byteLength_append, List.append_assoc, ← Nat.add_assoc] at hothers
      rw [hkept, hothers, Text.encode_append]
      rfl

end Shape

/-- **REMOVAL**: cutting the blocks out of the bytes of a template leaves the form of what is left
    of its characters. -/
theorem removeBytes?_encode (template : Text) :
    removeBytes? template.encode = some (remove template).encode := by
  obtain ⟨shape, hshape, rfl⟩ := exists_shape template
  obtain ⟨last, hrun, hfound⟩ := Scanner.run?_encode shape.text
  have hcut := shape.cut?_rangesFrom []
  rw [removeBytes?, hrun, remove_text hshape]
  show cut? shape.text.encode 0 last.found = _
  rw [hfound, regions_text hshape]
  exact hcut

end Block

/-! ## Filling -/

namespace Compilation

theorem short_token (placeholder : Placeholder) : placeholder.token.Short := by
  have hmark : '?'.toNat < 0x80 := by decide
  have hletters : ∀ d ∈ Placeholder.letters, d.toNat < 0x80 := by simp [Placeholder.letters]
  intro c hc
  rcases placeholder.token_eq with htoken | ⟨letter, hletter, htoken⟩
  · rw [htoken, List.mem_singleton] at hc
    rw [hc]
    exact hmark
  · rw [htoken] at hc
    rcases List.mem_cons.mp hc with rfl | hc
    · exact hmark
    · rw [List.mem_singleton.mp hc]
      exact hletters letter hletter

theorem token_ne_nil (placeholder : Placeholder) : placeholder.token ≠ [] := by
  cases placeholder <;> exact List.cons_ne_nil _ _

/-- A part between characters is replaced. -/
theorem replaceSlice?_encode (before old after new : Text) :
    replaceSlice? (before ++ (old ++ after)).encode before.byteLength old.encode.length
        new.encode = some (before ++ (new ++ after)).encode := by
  have hstop : Bytes.isBoundary (before ++ (old ++ after)).encode
      (before.byteLength + old.byteLength) = true := by
    rw [← List.append_assoc, ← Text.byteLength_append]
    exact isBoundary_byteLength _ _
  rw [replaceSlice?, Text.length_encode, isBoundary_byteLength, hstop, replaceBytes_encode]
  rfl

/-- **FILLING**: replacing ranges of bytes ends as the filling of the characters does. -/
theorem fillBytes?_encode (escape : Escaper) (sql : Text) (arguments : List (Nat × Param)) :
    fillBytes? escape sql.encode arguments =
      some ((fill escape sql arguments).result.map Text.encode) := by
  induction arguments generalizing sql with
  | nil => rfl
  | cons argument rest ih =>
      obtain ⟨index, param⟩ := argument
      have hfind :=
        find?_encode (short_token param.placeholder) (token_ne_nil param.placeholder) sql
      rw [fillBytes?]
      cases htext : param.text escape with
      | error fault =>
          rw [fill_cons_error (filling_eq_error_iff.mpr htext)]
          rfl
      | ok written =>
          simp only [hfind]
          cases hsplit : sql.splitFirst? param.placeholder.token with
          | none =>
              rw [fill_cons_missing htext hsplit]
              exact ih sql
          | some found =>
              obtain ⟨before, after⟩ := found
              have hsql : sql = before ++ (param.placeholder.token ++ after) := by
                rw [Text.splitFirst?_eq_some hsplit, List.append_assoc]
              rw [fill_cons_found htext hsplit, hsql]
              simp only [Option.map_some, replaceSlice?_encode, Option.bind_some]
              rw [← List.append_assoc]
              exact ih _

end Compilation

/-- **BYTE BY BYTE**: a position of the bytes of a template passes the test exactly if it lies
    between characters. The regions begin and end there, in order and disjoint; a scanner that
    counts braces finds them and never counts below zero; they are the blocks of the characters,
    counted in bytes. Cutting them out, and the whole compilation with the places that it replaces,
    have a result on bytes, which is the form of the result on characters. -/
theorem compile_bytewise (escape : Escaper) (template : Text) (params : List Value) :
    (∀ position, Bytes.isBoundary template.encode position = true ↔ template.Between position) ∧
    (∀ region ∈ Block.regions template, region.start < region.stop ∧
      template.Between region.start ∧ template.Between region.stop) ∧
    (Block.regions template).Pairwise (fun region later => region.stop ≤ later.start) ∧
    (∃ scanner, Block.Scanner.initial.run? 0 template.encode = some scanner ∧
      scanner.found = Block.regions template) ∧
    Block.regions template = (Block.spans Brace.ofChar? template).map (Span.inBytes template) ∧
    Block.removeBytes? template.encode = some (Block.remove template).encode ∧
    Compilation.bytes? escape template params =
      some ((compile escape template params).map Text.encode) := by
  obtain ⟨shape, hshape, rfl⟩ := Block.exists_shape template
  refine ⟨isBoundary_encode shape.text, ?_, ?_, Block.Scanner.run?_encode shape.text,
    Block.regions_eq shape.text, Block.removeBytes?_encode shape.text, ?_⟩
  · intro region hregion
    rw [Block.regions_text hshape] at hregion
    exact Block.Shape.mem_rangesFrom [] hregion
  · rw [Block.regions_text hshape]
    exact Block.Shape.pairwise_rangesFrom 0 shape.blocks
  · by_cases hparams : params = []
    · subst hparams
      rfl
    · have hempty : params.isEmpty = false := List.isEmpty_eq_false_iff.mpr hparams
      rw [compile_eq_fill hparams, Compilation.bytes?, hempty, ← Compilation.fillBytes?_encode]
      cases params.any Value.isSkip with
      | true =>
          rw [Block.removeBytes?_encode]
          rfl
      | false => rfl

end SqlTemplate
