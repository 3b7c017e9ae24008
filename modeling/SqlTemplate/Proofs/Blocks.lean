import SqlTemplate.Block.Shape

/-!
# Blocks — the scan finds the blocks of a shape

The grammar of templates counts braces over whole texts; the scan keeps a depth and goes forward one
character at a time. They agree on every text that is taken apart by the grammar:

* `depth_cons` is what one character does to the depth;
* **`spansFrom_inside`** — inside a block the scan follows the depth, as long as that does not fall
  below where the block began;
* `spansFrom_outside`, `spansFrom_block` and `spansFrom_unclosed` are the three things that stand in
  a row in a template;
* **`remove_text`** — what is left of a shape without its blocks is the text outside of them;
* **`exists_shape`** — and every template is the text of a shape, whatever its braces.
-/

namespace SqlTemplate.Block

/-! ## Depth, one character at a time -/

/-- How much deeper a delimiter leads, or a character that is none. -/
def weight : Option Brace → Int
  | some .opening => 1
  | some .closing => -1
  | none => 0

/-- An empty text leads nowhere. -/
theorem depth_nil : depth [] = 0 := rfl

/-- A text leads as deep as its first character and the others together. -/
theorem depth_cons (c : Char) (text : Text) :
    depth (c :: text) = weight (Brace.ofChar? c) + depth text := by
  by_cases hopening : c = '\x7b'
  · subst hopening
    have hcount : depth ('\x7b' :: text) =
        (text.count '\x7b' + 1 : Nat) - (text.count '\x7d' : Nat) := by
      rw [depth, List.count_cons_self, List.count_cons_of_ne (by decide)]
    rw [hcount, depth]
    show _ = 1 + _
    omega
  · by_cases hclosing : c = '\x7d'
    · subst hclosing
      have hcount : depth ('\x7d' :: text) =
          (text.count '\x7b' : Nat) - (text.count '\x7d' + 1 : Nat) := by
        rw [depth, List.count_cons_of_ne (by decide), List.count_cons_self]
      rw [hcount, depth]
      show _ = -1 + _
      omega
    · have hplain : Brace.ofChar? c = none := by
        rw [Brace.ofChar?, if_neg hopening, if_neg hclosing]
      rw [hplain, depth, List.count_cons_of_ne hopening, List.count_cons_of_ne hclosing, depth]
      show _ = 0 + _
      omega

/-- A text without opening braces has characters that open nothing. -/
theorem ofChar?_ne_opening {c : Char} (h : c ≠ '\x7b') : Brace.ofChar? c ≠ some .opening := by
  rw [Brace.ofChar?, if_neg h]
  split <;> nofun

/-! ## The scan -/

/-- **INSIDE**: a scan inside a block goes as deep as the text leads while it stays in the block. -/
theorem spansFrom_inside {content : Text} {nested nested' : Nat}
    (hbefore : ∀ front, front <+: content → 0 ≤ nested + depth front)
    (hwhole : nested + depth content = nested') (start position : Nat) (rest : Text) :
    spansFrom Brace.ofChar? (.inside start nested) position (content ++ rest) =
      spansFrom Brace.ofChar? (.inside start nested') (position + content.length) rest := by
  induction content generalizing nested position with
  | nil =>
      obtain rfl : nested = nested' := by
        rw [depth_nil] at hwhole
        omega
      rfl
  | cons c content ih =>
      have hposition : position + (c :: content).length = position + 1 + content.length := by
        rw [List.length_cons]
        omega
      -- the rest of the scan, from the depth that the first character leads to
      have hnext {next : Nat} (hdepth : (next : Int) = nested + weight (Brace.ofChar? c)) :
          spansFrom Brace.ofChar? (.inside start next) (position + 1) (content ++ rest) =
            spansFrom Brace.ofChar? (.inside start nested') (position + 1 + content.length)
              rest := by
        refine ih ?_ ?_ (position + 1)
        · intro front hfront
          have h := hbefore (c :: front) (List.cons_prefix_cons.mpr ⟨rfl, hfront⟩)
          rw [depth_cons] at h
          omega
        · rw [depth_cons] at hwhole
          omega
      rw [hposition, List.cons_append]
      cases hbrace : Brace.ofChar? c with
      | none =>
          simp only [spansFrom, hbrace]
          refine hnext ?_
          rw [hbrace]
          exact (Int.add_zero _).symm
      | some brace =>
          cases brace with
          | opening =>
              simp only [spansFrom, hbrace]
              refine hnext ?_
              rw [hbrace]
              rfl
          | closing =>
              cases nested with
              | zero =>
                  -- the block would end here
                  have h := hbefore [c] ⟨content, rfl⟩
                  rw [depth_cons, hbrace] at h
                  exact absurd h (by decide)
              | succ outer =>
                  simp only [spansFrom, hbrace]
                  refine hnext ?_
                  rw [hbrace]
                  show (outer : Int) = (outer + 1 : Nat) + -1
                  omega

/-- Outside of blocks a scan passes over a text without opening braces. -/
theorem spansFrom_outside {plain : Text} (h : '\x7b' ∉ plain) (position : Nat) (rest : Text) :
    spansFrom Brace.ofChar? .outside position (plain ++ rest) =
      spansFrom Brace.ofChar? .outside (position + plain.length) rest := by
  induction plain generalizing position with
  | nil => rfl
  | cons c plain ih =>
      have hc : c ≠ '\x7b' := fun heq => h (heq ▸ List.mem_cons_self)
      have hposition : position + (c :: plain).length = position + 1 + plain.length := by
        rw [List.length_cons]
        omega
      have hplain : '\x7b' ∉ plain := fun hmem => h (List.mem_cons_of_mem c hmem)
      rw [hposition, ← ih hplain, List.cons_append, spansFrom]
      split
      next hopening => exact absurd hopening (ofChar?_ne_opening hc)
      next => rfl

/-- A block is found, braces included, and the scan goes on behind it. -/
theorem spansFrom_block {content : Text} (h : Balanced content) (position : Nat) (rest : Text) :
    spansFrom Brace.ofChar? .outside position ('\x7b' :: (content ++ '\x7d' :: rest)) =
      ⟨position, position + (content.length + 2)⟩ ::
        spansFrom Brace.ofChar? .outside (position + (content.length + 2)) rest := by
  have hinside : spansFrom Brace.ofChar? (.inside position 0) (position + 1)
      (content ++ '\x7d' :: rest) =
        spansFrom Brace.ofChar? (.inside position 0) (position + 1 + content.length)
          ('\x7d' :: rest) := by
    refine spansFrom_inside (fun front hfront => ?_) ?_ position (position + 1) ('\x7d' :: rest)
    · have := h.before front hfront
      omega
    · rw [h.whole]
      rfl
  show spansFrom Brace.ofChar? (.inside position 0) (position + 1) _ = _
  have hposition : position + 1 + content.length + 1 = position + (content.length + 2) := by omega
  rw [hinside, ← hposition]
  rfl

/-- Nothing is found from a brace that is never closed. -/
theorem spansFrom_unclosed {rest : Text} (h : Unclosed rest) (position : Nat) :
    spansFrom Brace.ofChar? .outside position rest = [] := by
  cases rest with
  | nil => rfl
  | cons c rest =>
      obtain rfl : c = '\x7b' := Option.some.inj (h.head (List.cons_ne_nil c rest))
      have hdepth : ∀ front, front <+: rest → 0 ≤ ((0 : Nat) : Int) + depth front := by
        intro front hfront
        have hpositive := h.before ('\x7b' :: front) (List.cons_prefix_cons.mpr ⟨rfl, hfront⟩)
          (List.cons_ne_nil _ front)
        rw [depth_cons] at hpositive
        change 0 < 1 + depth front at hpositive
        omega
      obtain ⟨nested', hnested'⟩ := Int.eq_ofNat_of_zero_le (hdepth rest (List.prefix_refl rest))
      have hinside := spansFrom_inside hdepth hnested' position (position + 1) []
      rw [List.append_nil] at hinside
      exact hinside

/-! ## Templates without their blocks -/

/-- A span behind some text leaves that text and what is left of the text behind the span. -/
theorem outside_cons (plain block rest : Text) (position : Nat) (spans : List Span) :
    Span.outside position
        (⟨position + plain.length, position + plain.length + block.length⟩ :: spans)
        (plain ++ (block ++ rest)) =
      plain ++ Span.outside (position + plain.length + block.length) spans rest := by
  have hfront : position + plain.length - position = plain.length := by omega
  have hback : position + plain.length + block.length - position =
      (plain ++ block).length := by
    rw [List.length_append]
    omega
  rw [Span.outside, hfront, hback, List.take_left, ← List.append_assoc, List.drop_left]

namespace Shape

/-- The first block of a shape stands in front of the text of the others. -/
theorem text_cons (outside content : Text) (blocks : List (Text × Text)) (last rest : Text) :
    text ⟨(outside, content) :: blocks, last, rest⟩ =
      outside ++ ('\x7b' :: (content ++ ['\x7d']) ++ text ⟨blocks, last, rest⟩) := by
  simp [text]

/-- The first text of a shape stands in front of the others. -/
theorem outside_cons (outside content : Text) (blocks : List (Text × Text)) (last rest : Text) :
    Shape.outside ⟨(outside, content) :: blocks, last, rest⟩ =
      outside ++ Shape.outside ⟨blocks, last, rest⟩ := by
  simp [Shape.outside]

/-- A shape without its first block is as valid. -/
theorem Valid.tail {block : Text × Text} {blocks : List (Text × Text)} {last rest : Text}
    (h : Valid ⟨block :: blocks, last, rest⟩) : Valid ⟨blocks, last, rest⟩ :=
  ⟨fun other hother => h.plain other (List.mem_cons_of_mem block hother),
    fun other hother => h.balanced other (List.mem_cons_of_mem block hother), h.last, h.rest⟩

/-- The scan of a shape finds its first block, and goes on behind it. -/
theorem Valid.spansFrom_cons {outside content : Text} {blocks : List (Text × Text)}
    {last rest : Text} (h : Valid ⟨(outside, content) :: blocks, last, rest⟩) (position : Nat)
    (more : Text) :
    spansFrom Brace.ofChar? .outside position
        (outside ++ ('\x7b' :: (content ++ ['\x7d']) ++ more)) =
      ⟨position + outside.length, position + outside.length + (content.length + 2)⟩ ::
        spansFrom Brace.ofChar? .outside
          (position + outside.length + (content.length + 2)) more := by
  have hplain : '\x7b' ∉ outside := h.plain _ List.mem_cons_self
  have hcontent : Balanced content := h.balanced _ List.mem_cons_self
  rw [spansFrom_outside hplain, List.cons_append, List.append_assoc]
  exact spansFrom_block hcontent _ _

/-- Behind the blocks of a shape the scan finds nothing more. -/
theorem Valid.spansFrom_nil {last rest : Text} (h : Valid ⟨[], last, rest⟩) (position : Nat) :
    spansFrom Brace.ofChar? .outside position (text ⟨[], last, rest⟩) = [] := by
  show spansFrom Brace.ofChar? .outside position (last ++ rest) = []
  rw [spansFrom_outside h.last, spansFrom_unclosed h.rest]

/-- The scan of a shape finds as many blocks as it has. -/
theorem Valid.length_spansFrom {shape : Shape} (h : shape.Valid) (position : Nat) :
    (spansFrom Brace.ofChar? .outside position shape.text).length = shape.blocks.length := by
  obtain ⟨blocks, last, rest⟩ := shape
  induction blocks generalizing position with
  | nil => rw [h.spansFrom_nil]; rfl
  | cons block blocks ih =>
      obtain ⟨outside, content⟩ := block
      rw [text_cons, h.spansFrom_cons, List.length_cons, ih _ h.tail]
      rfl

/-- The scan of a shape leaves the text outside of its blocks, wherever the shape begins. -/
theorem Valid.outside_spansFrom {shape : Shape} (h : shape.Valid) (position : Nat) :
    Span.outside position (spansFrom Brace.ofChar? .outside position shape.text) shape.text =
      shape.outside := by
  obtain ⟨blocks, last, rest⟩ := shape
  induction blocks generalizing position with
  | nil =>
      rw [h.spansFrom_nil]
      rfl
  | cons block blocks ih =>
      obtain ⟨outside, content⟩ := block
      have hlength : content.length + 2 = ('\x7b' :: (content ++ ['\x7d'])).length := by simp
      rw [text_cons, h.spansFrom_cons, hlength, Block.outside_cons, ih _ h.tail, outside_cons]

end Shape

/-- **REMOVAL**: a template without its blocks is the text outside of them. -/
theorem remove_text {shape : Shape} (h : shape.Valid) : remove shape.text = shape.outside :=
  h.outside_spansFrom 0

/-! ## Every template has a shape -/

/-- From a depth inside a block, a text closes the block somewhere or never leaves it. -/
theorem closes_or_stays (nested : Nat) (text : Text) :
    (∃ content rest, text = content ++ '\x7d' :: rest ∧
      (∀ front, front <+: content → 0 ≤ nested + depth front) ∧ nested + depth content = 0) ∨
    ∀ front, front <+: text → 0 ≤ nested + depth front := by
  induction text generalizing nested with
  | nil =>
      refine Or.inr fun front hfront => ?_
      rw [List.prefix_nil.mp hfront, depth_nil]
      omega
  | cons c text ih =>
      -- the fronts of the whole text are those of the rest, from the depth behind the character
      have hfronts {next : Nat} (hnext : (next : Int) = nested + weight (Brace.ofChar? c))
          {content : Text} (h : ∀ front, front <+: content → 0 ≤ next + depth front) :
          ∀ front, front <+: c :: content → 0 ≤ nested + depth front := by
        intro front hfront
        rcases List.prefix_cons_iff.mp hfront with rfl | ⟨tail, rfl, htail⟩
        · rw [depth_nil]
          omega
        · have := h tail htail
          rw [depth_cons]
          omega
      by_cases hclosed : (nested : Int) + weight (Brace.ofChar? c) < 0
      · have hc : c = '\x7d' ∧ nested = 0 := by
          unfold Brace.ofChar? at hclosed
          split at hclosed
          · change (nested : Int) + 1 < 0 at hclosed
            omega
          · split at hclosed
            next hc =>
              change (nested : Int) + -1 < 0 at hclosed
              exact ⟨hc, by omega⟩
            next =>
              change (nested : Int) + 0 < 0 at hclosed
              omega
        obtain ⟨rfl, rfl⟩ := hc
        refine Or.inl ⟨[], text, rfl, fun front hfront => ?_, rfl⟩
        rw [List.prefix_nil.mp hfront]
        exact Int.le_refl 0
      · obtain ⟨next, hnext⟩ := Int.eq_ofNat_of_zero_le (Int.not_lt.mp hclosed)
        rcases ih next with ⟨content, rest, rfl, hcontent, hdepth⟩ | hstays
        · refine Or.inl ⟨c :: content, rest, rfl, hfronts hnext.symm hcontent, ?_⟩
          rw [depth_cons]
          omega
        · exact Or.inr (hfronts hnext.symm hstays)

/-- **SHAPES**: every template can be taken apart. -/
theorem exists_shape (template : Text) : ∃ shape : Shape, shape.Valid ∧ shape.text = template := by
  by_cases hplain : '\x7b' ∈ template
  · obtain ⟨outside, inside, rfl, houtside⟩ := List.eq_append_cons_of_mem hplain
    rcases closes_or_stays 0 inside with ⟨content, rest, rfl, hcontent, hdepth⟩ | hstays
    · obtain ⟨shape, hshape, htext⟩ := exists_shape rest
      have hbalanced : Balanced content :=
        ⟨fun front hfront => by simpa using hcontent front hfront, by simpa using hdepth⟩
      refine ⟨⟨(outside, content) :: shape.blocks, shape.last, shape.rest⟩, ⟨?_, ?_, hshape.last,
        hshape.rest⟩, ?_⟩
      · exact List.forall_mem_cons.mpr ⟨houtside, hshape.plain⟩
      · exact List.forall_mem_cons.mpr ⟨hbalanced, hshape.balanced⟩
      · rw [Shape.text_cons, htext]
        simp
    · refine ⟨⟨[], outside, '\x7b' :: inside⟩, ⟨nofun, nofun, houtside, fun _ => rfl, ?_⟩, rfl⟩
      intro front hfront hne
      rcases List.prefix_cons_iff.mp hfront with rfl | ⟨tail, rfl, htail⟩
      · exact absurd rfl hne
      · have := hstays tail htail
        rw [depth_cons]
        show 0 < 1 + depth tail
        omega
  · refine ⟨⟨[], template, []⟩, ⟨nofun, nofun, hplain, fun h => absurd rfl h, ?_⟩, ?_⟩
    · intro front hfront hne
      exact absurd (List.prefix_nil.mp hfront) hne
    · exact List.append_nil template
termination_by template.length

end SqlTemplate.Block
