import SqlTemplate.Block

/-!
# Shapes — the grammar of blocks

A template is a row of texts and blocks, with at most one brace at the end that is never closed:

* a text outside blocks holds no opening brace;
* the content of a block is `Balanced`;
* what follows the last brace that is never closed is `Unclosed`.

`Shape` is a template taken apart, and `Shape.text` puts it together again; `Shape.ranges` says
where its blocks stand in bytes. Templates that are equal but for what their blocks hold are
`Refilled`.
-/

namespace SqlTemplate.Block

/-- How much deeper the nesting is after a text than before it. -/
def depth (text : Text) : Int :=
  text.count '\x7b' - text.count '\x7d'

/-- A text in which every closing brace has its opening one, and the other way round. -/
structure Balanced (text : Text) : Prop where
  before : ∀ front, front <+: text → 0 ≤ depth front
  whole : depth text = 0

/-- A text that is empty, or begins with an opening brace that is never closed. -/
structure Unclosed (text : Text) : Prop where
  head : text ≠ [] → text.head? = some '\x7b'
  before : ∀ front, front <+: text → front ≠ [] → 0 < depth front

/-- Whether a text is balanced shows in its fronts, of which there are as many as characters. -/
instance (text : Text) : Decidable (Balanced text) :=
  decidable_of_iff
    ((∀ n < text.length + 1, 0 ≤ depth (text.take n)) ∧ depth text = 0)
    (by
      constructor
      · rintro ⟨hbefore, hwhole⟩
        refine ⟨fun front hfront => ?_, hwhole⟩
        rw [List.prefix_iff_eq_take.mp hfront]
        exact hbefore _ (Nat.lt_succ_of_le hfront.length_le)
      · rintro ⟨hbefore, hwhole⟩
        exact ⟨fun n _ => hbefore _ (List.take_prefix n text), hwhole⟩)

instance (text : Text) : Decidable (Unclosed text) :=
  decidable_of_iff
    ((text ≠ [] → text.head? = some '\x7b') ∧
      ∀ n < text.length + 1, text.take n ≠ [] → 0 < depth (text.take n))
    (by
      constructor
      · rintro ⟨hhead, hbefore⟩
        refine ⟨hhead, fun front hfront => ?_⟩
        rw [List.prefix_iff_eq_take.mp hfront]
        exact hbefore _ (Nat.lt_succ_of_le hfront.length_le)
      · rintro ⟨hhead, hbefore⟩
        exact ⟨hhead, fun n _ => hbefore _ (List.take_prefix n text)⟩)

/-- A template taken apart: the text before each block with the content of the block, the text after
    the last block, and the rest from a brace that is never closed. -/
structure Shape where
  blocks : List (Text × Text)
  last : Text
  rest : Text

namespace Shape

/-- The template of a shape. -/
def text (shape : Shape) : Text :=
  shape.blocks.flatMap (fun (outside, content) => outside ++ '\x7b' :: (content ++ ['\x7d'])) ++
    shape.last ++ shape.rest

/-- The template of a shape without its blocks. -/
def outside (shape : Shape) : Text :=
  shape.blocks.flatMap Prod.fst ++ shape.last ++ shape.rest

/-- Where blocks stand in bytes, each behind the text before it, if that of the first one begins at
    `position`. -/
def rangesFrom : (position : Nat) → (blocks : List (Text × Text)) → List Span
  | _, [] => []
  | position, (outside, content) :: blocks =>
    let start := position + outside.byteLength
    let stop := start + Text.byteLength ('\x7b' :: (content ++ ['\x7d']))
    ⟨start, stop⟩ :: rangesFrom stop blocks

/-- The ranges of the blocks of a shape in bytes, braces included. -/
def ranges (shape : Shape) : List Span :=
  rangesFrom 0 shape.blocks

/-- The parts of a shape are what they should be. -/
structure Valid (shape : Shape) : Prop where
  plain : ∀ block ∈ shape.blocks, '\x7b' ∉ block.1
  balanced : ∀ block ∈ shape.blocks, Balanced block.2
  last : '\x7b' ∉ shape.last
  rest : Unclosed shape.rest

instance (shape : Shape) : Decidable shape.Valid :=
  decidable_of_iff
    ((∀ block ∈ shape.blocks, '\x7b' ∉ block.1) ∧ (∀ block ∈ shape.blocks, Balanced block.2) ∧
      '\x7b' ∉ shape.last ∧ Unclosed shape.rest)
    ⟨fun ⟨plain, balanced, last, rest⟩ => ⟨plain, balanced, last, rest⟩,
      fun ⟨plain, balanced, last, rest⟩ => ⟨plain, balanced, last, rest⟩⟩

/-- Shapes are the same outside of their blocks, whatever the blocks hold. -/
structure SameOutside (shape other : Shape) : Prop where
  blocks : shape.blocks.map Prod.fst = other.blocks.map Prod.fst
  last : shape.last = other.last
  rest : shape.rest = other.rest

end Shape

/-- One template is the other with other balanced texts in its blocks. -/
def Refilled (template other : Text) : Prop :=
  ∃ shape shape' : Shape, shape.Valid ∧ shape'.Valid ∧ shape.SameOutside shape' ∧
    template = shape.text ∧ other = shape'.text

end SqlTemplate.Block
