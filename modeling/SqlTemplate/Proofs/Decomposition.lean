import SqlTemplate.Proofs.Bytes
import SqlTemplate.Proofs.FirstOccurrence

/-!
# Decomposition — the grammar of blocks is unambiguous, and the scan recognises it

Every template has a shape. This file shows that it has only one, so that the blocks of a template
are something to speak of, and that the scan reports those blocks and no others.

* `plain_unique` and `content_unique` — what stands in front of the first opening brace, and what
  stands between that brace and the one that closes it, is settled by the text;
* `Unclosed.not_closed` — a brace that is never closed is not closed by a block either;
* **`Shape.Valid.unique`** — so two shapes of one template are the same, block by block;
* **`regions_text`** — the regions of a shape's text are the byte ranges of its blocks;
* `regions_outside` — outside of the blocks there are none left;
* **`existsUnique_shape`** puts these together.
-/

namespace SqlTemplate.Block

/-! ## One text, one way to read it -/

/-- Two texts in a row lead as deep as the one and the other together. -/
theorem depth_append (text more : Text) : depth (text ++ more) = depth text + depth more := by
  simp only [depth, List.count_append]
  omega

/-- A text without an opening brace is none that has one somewhere. -/
theorem plain_ne {plain outside inside : Text} (h : '\x7b' ∉ plain) :
    plain ≠ outside ++ '\x7b' :: inside := by
  rintro rfl
  simp at h

/-- **PLAIN TEXTS**: what stands before the first opening brace is settled by the text. -/
theorem plain_unique {plain plain' inside inside' : Text} (h : '\x7b' ∉ plain)
    (h' : '\x7b' ∉ plain') (heq : plain ++ '\x7b' :: inside = plain' ++ '\x7b' :: inside') :
    plain = plain' ∧ inside = inside' := by
  have hsplit := Text.splitFirst?_mark h inside
  rw [heq, Text.splitFirst?_mark h' inside'] at hsplit
  simp only [Option.some.injEq, Prod.mk.injEq] at hsplit
  exact ⟨hsplit.1.symm, hsplit.2.symm⟩

/-- A balanced text is no front of another one that goes on with a closing brace. -/
theorem Balanced.not_closed {content between : Text} (h : Balanced content) :
    ¬ Balanced (content ++ '\x7d' :: between) := by
  intro hlonger
  have hfront : content ++ ['\x7d'] <+: content ++ '\x7d' :: between := by
    refine ⟨between, ?_⟩
    simp
  have hdepth := hlonger.before _ hfront
  rw [depth_append, h.whole] at hdepth
  exact absurd hdepth (by decide)

/-- **CONTENTS**: what stands between a brace and the one that closes it is settled by the text. -/
theorem content_unique {content content' behind behind' : Text} (h : Balanced content)
    (h' : Balanced content')
    (heq : content ++ '\x7d' :: behind = content' ++ '\x7d' :: behind') :
    content = content' ∧ behind = behind' := by
  rcases Text.append_eq_append_cons heq with ⟨between, rfl, hrest⟩ | ⟨between, rfl, -⟩
  · cases between with
    | nil =>
        simp only [List.nil_append, List.cons.injEq, true_and] at hrest
        exact ⟨by simp, hrest⟩
    | cons c between =>
        obtain ⟨rfl, -⟩ := List.cons.inj hrest
        exact absurd h' h.not_closed
  · exact absurd h h'.not_closed

/-- What is never closed is empty or begins with an opening brace. -/
theorem Unclosed.eq_nil_or_cons {rest : Text} (h : Unclosed rest) :
    rest = [] ∨ ∃ inside, rest = '\x7b' :: inside := by
  cases rest with
  | nil => exact Or.inl rfl
  | cons c inside =>
      have hc : c = '\x7b' := Option.some.inj (h.head (List.cons_ne_nil c inside))
      exact Or.inr ⟨inside, by rw [hc]⟩

/-- A brace that is never closed is not closed by a block. -/
theorem Unclosed.not_closed {content behind : Text} (h : Balanced content) :
    ¬ Unclosed ('\x7b' :: (content ++ '\x7d' :: behind)) := by
  intro hunclosed
  have hfront : '\x7b' :: (content ++ ['\x7d']) <+: '\x7b' :: (content ++ '\x7d' :: behind) := by
    refine ⟨behind, ?_⟩
    simp
  have hdepth := hunclosed.before _ hfront (List.cons_ne_nil _ _)
  rw [depth_cons, depth_append, h.whole] at hdepth
  exact absurd hdepth (by decide)

/-! ## One template, one shape -/

namespace Shape

/-- The text of a shape with a block has a plain text, a block and the text of the others. -/
theorem text_cons_eq (outside content : Text) (blocks : List (Text × Text)) (last rest : Text) :
    text ⟨(outside, content) :: blocks, last, rest⟩ =
      outside ++ '\x7b' :: (content ++ '\x7d' :: text ⟨blocks, last, rest⟩) := by
  rw [text_cons]
  simp

/-- A shape without blocks ends as a plain text and what is never closed. -/
theorem text_nil (last rest : Text) : text ⟨[], last, rest⟩ = last ++ rest := rfl

/-- A template does not both begin with a block and hold none. -/
theorem Valid.text_cons_ne_nil {block : Text × Text} {blocks : List (Text × Text)}
    {last rest last' rest' : Text} (h : Valid ⟨block :: blocks, last, rest⟩)
    (h' : Valid ⟨[], last', rest'⟩) :
    text ⟨block :: blocks, last, rest⟩ ≠ text ⟨[], last', rest'⟩ := by
  intro heq
  obtain ⟨outside, content⟩ := block
  have hplain : '\x7b' ∉ outside := h.plain _ List.mem_cons_self
  have hcontent : Balanced content := h.balanced _ List.mem_cons_self
  have hlast : '\x7b' ∉ last' := h'.last
  have hrest : Unclosed rest' := h'.rest
  rw [text_cons_eq, text_nil] at heq
  rcases hrest.eq_nil_or_cons with rfl | ⟨inside, rfl⟩
  · rw [List.append_nil] at heq
    exact plain_ne hlast heq.symm
  · obtain ⟨-, rfl⟩ := plain_unique hplain hlast heq
    exact Unclosed.not_closed hcontent hrest

/-- Behind a plain text, what is never closed is settled by the text. -/
theorem Valid.unique_nil {last rest last' rest' : Text} (h : Valid ⟨[], last, rest⟩)
    (h' : Valid ⟨[], last', rest'⟩) (heq : last ++ rest = last' ++ rest') :
    last = last' ∧ rest = rest' := by
  have hlast : '\x7b' ∉ last := h.last
  have hlast' : '\x7b' ∉ last' := h'.last
  have hrest : Unclosed rest := h.rest
  have hrest' : Unclosed rest' := h'.rest
  rcases hrest.eq_nil_or_cons with rfl | ⟨inside, rfl⟩
  · rcases hrest'.eq_nil_or_cons with rfl | ⟨inside', rfl⟩
    · simpa using heq
    · rw [List.append_nil] at heq
      exact absurd heq (plain_ne hlast)
  · rcases hrest'.eq_nil_or_cons with rfl | ⟨inside', rfl⟩
    · rw [List.append_nil] at heq
      exact absurd heq.symm (plain_ne hlast')
    · obtain ⟨rfl, rfl⟩ := plain_unique hlast hlast' heq
      exact ⟨rfl, rfl⟩

/-- **ONE SHAPE**: two shapes of one text are the same, by induction on the blocks of both. -/
theorem Valid.unique {shape other : Shape} (h : shape.Valid) (h' : other.Valid)
    (heq : shape.text = other.text) : shape = other := by
  obtain ⟨blocks, last, rest⟩ := shape
  obtain ⟨blocks', last', rest'⟩ := other
  induction blocks generalizing blocks' with
  | nil =>
      cases blocks' with
      | nil =>
          obtain ⟨rfl, rfl⟩ := Valid.unique_nil h h' heq
          rfl
      | cons block' blocks' => exact absurd heq.symm (h'.text_cons_ne_nil h)
  | cons block blocks ih =>
      cases blocks' with
      | nil => exact absurd heq (h.text_cons_ne_nil h')
      | cons block' blocks' =>
          obtain ⟨outside, content⟩ := block
          obtain ⟨outside', content'⟩ := block'
          rw [text_cons_eq, text_cons_eq] at heq
          obtain ⟨rfl, hinside⟩ := plain_unique (h.plain _ List.mem_cons_self)
            (h'.plain _ List.mem_cons_self) heq
          obtain ⟨rfl, hmore⟩ := content_unique (h.balanced _ List.mem_cons_self)
            (h'.balanced _ List.mem_cons_self) hinside
          have hothers := ih h.tail blocks' h'.tail hmore
          simp only [Shape.mk.injEq] at hothers
          obtain ⟨rfl, rfl, rfl⟩ := hothers
          rfl

end Shape

/-! ## The ranges of the blocks -/

/-- A range of characters that begins behind a text and is as long as another one, in bytes. -/
theorem inBytes_behind (front block behind : Text) :
    Span.inBytes (front ++ (block ++ behind)) ⟨front.length, front.length + block.length⟩ =
      ⟨front.byteLength, front.byteLength + block.byteLength⟩ := by
  have hstop : (front ++ (block ++ behind)).take (front.length + block.length) =
      front ++ block := by
    rw [← List.append_assoc, ← List.length_append, List.take_left]
  rw [Span.inBytes, List.take_left, hstop, Text.byteLength_append]

/-- Behind any text, the scan of a shape finds its blocks where they stand in bytes. -/
theorem Shape.Valid.inBytes_spansFrom {shape : Shape} (h : shape.Valid) (front : Text) :
    (spansFrom Brace.ofChar? .outside front.length shape.text).map
        (Span.inBytes (front ++ shape.text)) =
      Shape.rangesFrom front.byteLength shape.blocks := by
  obtain ⟨blocks, last, rest⟩ := shape
  induction blocks generalizing front with
  | nil =>
      rw [h.spansFrom_nil]
      rfl
  | cons block blocks ih =>
      obtain ⟨outside, content⟩ := block
      have hlength : content.length + 2 = ('\x7b' :: (content ++ ['\x7d'])).length := by simp
      rw [Shape.text_cons, h.spansFrom_cons, hlength, List.map_cons, Shape.rangesFrom]
      generalize '\x7b' :: (content ++ ['\x7d']) = block
      have hfirst := inBytes_behind (front ++ outside) block (Shape.text ⟨blocks, last, rest⟩)
      have hothers := ih (front ++ outside ++ block) h.tail
      simp only [List.append_assoc, List.length_append, Text.byteLength_append, ← Nat.add_assoc]
        at hfirst hothers
      rw [hfirst, hothers]

/-- **REGIONS OF A SHAPE**: the regions of its text are the ranges of its blocks. -/
theorem regions_text {shape : Shape} (h : shape.Valid) : regions shape.text = shape.ranges := by
  rw [regions_eq]
  exact h.inBytes_spansFrom []

/-- A shape without its blocks. -/
def Shape.emptied (shape : Shape) : Shape :=
  ⟨[], shape.blocks.flatMap Prod.fst ++ shape.last, shape.rest⟩

/-- The texts outside of blocks have no opening brace in a row either. -/
theorem Shape.Valid.emptied {shape : Shape} (h : shape.Valid) : shape.emptied.Valid := by
  refine ⟨nofun, nofun, ?_, h.rest⟩
  show '\x7b' ∉ shape.blocks.flatMap Prod.fst ++ shape.last
  intro hmem
  rcases List.mem_append.mp hmem with hblocks | hlast
  · obtain ⟨block, hblock, hplain⟩ := List.mem_flatMap.mp hblocks
    exact h.plain block hblock hplain
  · exact h.last hlast

/-- **WITHOUT BLOCKS**: outside of the blocks of a template there are no regions. -/
theorem regions_outside {shape : Shape} (h : shape.Valid) : regions shape.outside = [] := by
  show regions shape.emptied.text = []
  rw [regions_text h.emptied]
  rfl

/-- **THE GRAMMAR**: every template has exactly one shape. Its regions are the byte ranges of the
    blocks of that shape, and without its blocks it is the text outside of them, where no block is
    left, so that removing blocks once more changes nothing. -/
theorem existsUnique_shape (template : Text) :
    ∃ shape : Shape, (shape.Valid ∧ shape.text = template) ∧
      (∀ other : Shape, other.Valid → other.text = template → other = shape) ∧
      regions template = shape.ranges ∧
      remove template = shape.outside ∧
      regions (remove template) = [] ∧
      remove (remove template) = remove template := by
  obtain ⟨shape, hshape, rfl⟩ := exists_shape template
  have hremoved : remove shape.text = shape.outside := remove_text hshape
  refine ⟨shape, ⟨hshape, rfl⟩, ?_, regions_text hshape, hremoved, ?_, ?_⟩
  · intro other hother htext
    exact hother.unique hshape htext
  · rw [hremoved]
    exact regions_outside hshape
  · rw [hremoved]
    exact remove_text hshape.emptied

/-- A stray closing brace, a block with an inner one behind a character of two bytes, an empty block
    right behind it, and a brace that is never closed, whatever it holds. -/
example : regions "\x7dé\x7b?d\x7ba\x7d\x7d\x7b\x7d \x7bx\x7by\x7d".toList =
    [⟨3, 10⟩, ⟨10, 12⟩] := by
  decide

end SqlTemplate.Block
