import SqlTemplate.Proofs.Components

/-!
# Ancestors — the paths above a path, level by level

The path one level up is found by dropping pieces from the end. What that does to the components of
a path is to drop the last one, and what is left ends with a component. Level by level this gives
every path above, the nearest first:

* `parent?_of_pieces` says all that the step upwards does, `parent?_cases` where it leads, and
  **`parent?_eq_some`** what that means;
* `length_ancestors` — there is a path above for each component that can be dropped;
* `above_of_getElem?` — each path that is listed lies above by its place in the list, by induction
  on the levels;
* **`getElem?_ancestors_eq_some_iff`** — and nothing else lies above.
-/

namespace SqlTemplate.Path

/-! ## One level up -/

theorem trimmed_isPrefix (texts : List Text) : trimmed texts <+: texts :=
  List.rdropWhile_prefix isIdle texts

/-- What is trimmed says nothing. -/
theorem filter_trimmed (texts : List Text) :
    ((trimmed texts).filter fun piece => !isIdle piece) =
      texts.filter fun piece => !isIdle piece := by
  show ((texts.rdropWhile isIdle).filter _) = _
  induction texts using List.reverseRecOn with
  | nil => rfl
  | append_singleton texts last ih =>
      cases hidle : isIdle last with
      | true =>
          rw [List.rdropWhile_concat_pos isIdle texts last hidle, ih, List.filter_append]
          simp [hidle]
      | false => rw [List.rdropWhile_concat_neg isIdle texts last (by simp [hidle])]

/-- What is left ends with a piece that is not idle, if anything is left. -/
theorem trimmed_cases (texts : List Text) :
    trimmed texts = [] ∨
      ∃ front last, trimmed texts = front ++ [last] ∧ isIdle last = false := by
  by_cases h : trimmed texts = []
  · exact Or.inl h
  · refine Or.inr ⟨(trimmed texts).dropLast, (trimmed texts).getLast h, ?_, ?_⟩
    · exact (List.dropLast_concat_getLast h).symm
    · exact Bool.eq_false_iff.mpr (List.rdropWhile_last_not isIdle texts h)

/-- The path of a first piece and others behind it, with the slash of the root if it is alone. -/
def written (first : Text) (others : List Text) : Path :=
  if others = [] then origin first else ofPieces (first :: others)

/-- **ONE LEVEL UP**: the pieces at the end that say nothing are dropped, then the last of the
    others and once more what says nothing. A first piece alone has only the empty path above it,
    and the root has none. -/
theorem parent?_of_pieces {path : Path} {first : Text} {rest : List Text}
    (h : pieces path = first :: rest) :
    parent? path =
      match trimmed rest with
      | [] => if first = [] then none else some []
      | named => some (written first (trimmed named.dropLast)) := by
  unfold parent?
  split
  next body =>
    have hroot : pieces ('/' :: body) = [] :: pieces body := pieces_append [] body
    obtain ⟨rfl, rfl⟩ := List.cons.inj (hroot.symm.trans h)
    cases hnamed : trimmed (pieces body) with
    | nil => rfl
    | cons text texts =>
        show some ('/' :: ofPieces (trimmed (text :: texts).dropLast)) = some (written [] _)
        by_cases hothers : trimmed (text :: texts).dropLast = []
        · rw [written, if_pos hothers, hothers]
          rfl
        · rw [written, if_neg hothers, ofPieces_cons [] hothers]
          rfl
  next hrelative =>
    rw [h]
    show (match trimmed rest with
      | [] => if first = [] then none else some []
      | named => some (ofPieces (first :: trimmed named.dropLast))) = _
    cases hnamed : trimmed rest with
    | nil => rfl
    | cons text texts =>
        have hfirst : first ≠ [] := by
          rintro rfl
          have hrest : rest ≠ [] := by
            rintro rfl
            exact nomatch hnamed
          refine hrelative (ofPieces rest) ?_
          rw [← ofPieces_pieces path, h, ofPieces_cons [] hrest]
          rfl
        show some (ofPieces (first :: trimmed (text :: texts).dropLast)) = some (written first _)
        by_cases hothers : trimmed (text :: texts).dropLast = []
        · rw [written, if_pos hothers, hothers, origin, if_neg hfirst, ofPieces_singleton]
        · rw [written, if_neg hothers]

/-- A path one level up is empty, or holds what stands before the last piece that is not idle. -/
theorem parent?_cases {path parent : Path} {first : Text} {rest : List Text}
    (hpieces : pieces path = first :: rest) (h : parent? path = some parent) :
    (first ≠ [] ∧ trimmed rest = [] ∧ parent = []) ∨
      ∃ front last, trimmed rest = front ++ [last] ∧ isIdle last = false ∧
        parent = written first (trimmed front) := by
  rw [parent?_of_pieces hpieces] at h
  rcases trimmed_cases rest with hnil | ⟨front, last, hnamed, hlast⟩
  · rw [hnil] at h
    by_cases hroot : first = []
    · rw [if_pos hroot] at h
      exact nomatch h
    · rw [if_neg hroot] at h
      exact .inl ⟨hroot, hnil, (Option.some.inj h).symm⟩
  · refine .inr ⟨front, last, hnamed, hlast, ?_⟩
    obtain ⟨text, texts, hcons⟩ : ∃ text texts, front ++ [last] = text :: texts :=
      List.exists_cons_of_ne_nil (by simp)
    rw [hnamed, hcons] at h
    rw [← Option.some.inj h, ← hcons, List.dropLast_concat]

/-- A path begins at the root exactly if its first piece is empty and not the only one. -/
theorem isAbsolute_iff {path : Path} {first : Text} {rest : List Text} (hne : path ≠ [])
    (h : pieces path = first :: rest) : path.isAbsolute = true ↔ first = [] := by
  constructor
  · intro habsolute
    unfold isAbsolute at habsolute
    split at habsolute
    next body =>
      have hroot : pieces ('/' :: body) = [] :: pieces body := pieces_append [] body
      exact (List.cons.inj (h.symm.trans hroot)).1
    · exact nomatch habsolute
  · rintro rfl
    have hrest : rest ≠ [] := by
      rintro rfl
      exact hne (ofPieces_pieces path ▸ h ▸ ofPieces_singleton [])
    rw [← ofPieces_pieces path, h, ofPieces_cons [] hrest]
    rfl

/-! ## What one level up says -/

section

variable {first : Text} {others : List Text}

theorem pieces_written (hfirst : '/' ∉ first) (hothers : ∀ text ∈ others, '/' ∉ text)
    (h : others ≠ []) : pieces (written first others) = first :: others := by
  rw [written, if_neg h]
  refine pieces_ofPieces ?_ (List.cons_ne_nil _ _)
  exact List.forall_mem_cons.mpr ⟨hfirst, hothers⟩

theorem components_written (hfirst : '/' ∉ first) (hothers : ∀ text ∈ others, '/' ∉ text) :
    (written first others).components =
      origin first :: others.filter fun piece => !isIdle piece := by
  by_cases h : others = []
  · subst h
    rw [written, if_pos rfl]
    by_cases hroot : first = []
    · subst hroot
      decide
    · rw [origin, if_neg hroot, components_plain hroot hfirst]
      rfl
  · have hpieces := pieces_written hfirst hothers h
    refine components_of_pieces ?_ hpieces
    intro hnil
    rw [hnil] at hpieces
    exact h (List.cons.inj hpieces).2.symm

theorem settled_written (hfirst : '/' ∉ first) (hothers : ∀ text ∈ others, '/' ∉ text)
    (hlast : others = [] ∨ ∃ front last, others = front ++ [last] ∧ isIdle last = false) :
    Settled (written first others) := by
  rcases hlast with rfl | ⟨front, last, rfl, hnamed⟩
  · rw [written, if_pos rfl]
    by_cases hroot : first = []
    · subst hroot
      exact settled_root
    · rw [origin, if_neg hroot]
      exact settled_plain hfirst
  · rw [written, if_neg (by simp), ← List.cons_append,
      ofPieces_append (List.cons_ne_nil _ _) (List.cons_ne_nil _ _), ofPieces_singleton]
    exact settled_append_piece _ (hothers last (by simp)) hnamed

theorem isAbsolute_written (others : List Text) : (written [] others).isAbsolute = true := by
  by_cases h : others = []
  · rw [written, if_pos h]
    rfl
  · rw [written, if_neg h, ofPieces_cons [] h]
    rfl

theorem written_isPrefix (first : Text) (others : List Text) {more : List Text} (h : more ≠ []) :
    written first others <+: ofPieces (first :: (others ++ more)) := by
  by_cases hothers : others = []
  · rw [written, if_pos hothers, hothers, List.nil_append, ofPieces_cons first h, origin]
    split
    next hroot =>
      rw [hroot]
      exact List.prefix_append ['/'] (ofPieces more)
    · exact List.prefix_append first _
  · rw [written, if_neg hothers, ← List.cons_append, ofPieces_append (List.cons_ne_nil _ _) h]
    exact List.prefix_append _ _

end

theorem isAbsolute_of_isPrefix {upper path : Path} (h : upper <+: path)
    (habsolute : upper.isAbsolute = true) : path.isAbsolute = true := by
  obtain ⟨more, rfl⟩ := h
  unfold isAbsolute at habsolute
  split at habsolute
  · rfl
  · exact nomatch habsolute

/-- What the step upwards leaves stands in front of what it drops. -/
theorem written_trimmed_isPrefix (first : Text) {rest front : List Text} {last : Text}
    (h : trimmed rest = front ++ [last]) :
    written first (trimmed front) <+: ofPieces (first :: rest) := by
  obtain ⟨idle, hidle⟩ := trimmed_isPrefix front
  obtain ⟨more, hmore⟩ := trimmed_isPrefix rest
  have hcut : rest = trimmed front ++ (idle ++ last :: more) :=
    calc rest = front ++ [last] ++ more := by rw [← h, hmore]
      _ = trimmed front ++ idle ++ [last] ++ more := by rw [hidle]
      _ = trimmed front ++ (idle ++ last :: more) := by simp
  rw [hcut]
  exact written_isPrefix first (trimmed front) (by simp)

/-- **THE PARENT** of a path is a beginning of it that says all but its last component and ends with
    a component. -/
theorem parent?_eq_some {path parent : Path} (h : parent? path = some parent) :
    parent <+: path ∧ (∃ last, path.components = parent.components ++ [last]) ∧
      Settled parent ∧ parent.isAbsolute = path.isAbsolute := by
  cases hpieces : pieces path with
  | nil => exact absurd hpieces (pieces_ne_nil path)
  | cons first rest =>
    have hplain : ∀ text ∈ first :: rest, '/' ∉ text := fun text htext =>
      slash_not_mem_of_mem_pieces (hpieces ▸ htext)
    obtain ⟨hfirst, hrest⟩ := List.forall_mem_cons.mp hplain
    have hne : path ≠ [] := by
      rintro rfl
      exact nomatch h
    have hcomponents := components_of_pieces hne hpieces
    rw [← filter_trimmed] at hcomponents
    rcases parent?_cases hpieces h with ⟨hroot, hnil, rfl⟩ | ⟨front, last, hnamed, hlast, rfl⟩
    · -- a single component stands in the empty path
      rw [hnil] at hcomponents
      refine ⟨List.nil_prefix, ⟨origin first, hcomponents⟩, settled_nil, ?_⟩
      exact (Bool.eq_false_iff.mpr (mt (isAbsolute_iff hne hpieces).mp hroot)).symm
    · have hfront : ∀ text ∈ trimmed front, '/' ∉ text := by
        intro text htext
        refine hrest text ((trimmed_isPrefix rest).subset ?_)
        rw [hnamed]
        exact List.mem_append_left _ ((trimmed_isPrefix front).subset htext)
      have hbegins : written first (trimmed front) <+: path := by
        rw [← ofPieces_pieces path, hpieces]
        exact written_trimmed_isPrefix first hnamed
      refine ⟨hbegins, ⟨last, ?_⟩, settled_written hfirst hfront (trimmed_cases front), ?_⟩
      · rw [hcomponents, components_written hfirst hfront, hnamed, filter_trimmed,
          List.filter_append]
        simp [hlast]
      · refine Bool.eq_iff_iff.mpr ⟨isAbsolute_of_isPrefix hbegins, ?_⟩
        intro habsolute
        obtain rfl : first = [] := (isAbsolute_iff hne hpieces).mp habsolute
        exact isAbsolute_written (trimmed front)

/-- Without a parent are the empty path and the root. -/
theorem parent?_eq_none {path : Path} (h : parent? path = none) :
    path = [] ∨ path.isAbsolute = true ∧ path.components = [['/']] := by
  cases hpieces : pieces path with
  | nil => exact absurd hpieces (pieces_ne_nil path)
  | cons first rest =>
    by_cases hne : path = []
    · exact Or.inl hne
    · have hcomponents := components_of_pieces hne hpieces
      rw [← filter_trimmed] at hcomponents
      rw [parent?_of_pieces hpieces] at h
      cases hnamed : trimmed rest with
      | nil =>
          rw [hnamed] at h hcomponents
          by_cases hroot : first = []
          · subst hroot
            exact Or.inr ⟨(isAbsolute_iff hne hpieces).mpr rfl, hcomponents⟩
          · rw [if_neg hroot] at h
            exact nomatch h
      | cons text texts =>
          rw [hnamed] at h
          exact nomatch h

/-! ## Levels -/

theorem length_lt_of_parent? {path parent : Path} (h : parent? path = some parent) :
    parent.length < path.length := by
  obtain ⟨hbegins, ⟨last, hlast⟩, -, -⟩ := parent?_eq_some h
  refine Nat.lt_of_le_of_ne hbegins.length_le ?_
  intro hlength
  rw [hbegins.eq_of_length hlength] at hlast
  simp at hlast

/-- A path is not longer than the number of steps upwards that it takes. -/
theorem ancestorsWithin_eq {levels levels' : Nat} {path : Path} (h : path.length ≤ levels)
    (h' : path.length ≤ levels') : ancestorsWithin levels path = ancestorsWithin levels' path := by
  induction levels generalizing levels' path with
  | zero =>
      obtain rfl : path = [] := List.eq_nil_of_length_eq_zero (Nat.le_zero.mp h)
      cases levels' with
      | zero => rfl
      | succ levels' => rfl
  | succ levels ih =>
      cases levels' with
      | zero =>
          obtain rfl : path = [] := List.eq_nil_of_length_eq_zero (Nat.le_zero.mp h')
          rfl
      | succ levels' =>
          rw [ancestorsWithin, ancestorsWithin]
          cases hparent : parent? path with
          | none => rfl
          | some parent =>
              have hlt := length_lt_of_parent? hparent
              exact congrArg (path :: ·) (ih (Nat.le_of_lt_succ (Nat.lt_of_lt_of_le hlt h))
                (Nat.le_of_lt_succ (Nat.lt_of_lt_of_le hlt h')))

theorem ancestors_of_none {path : Path} (h : parent? path = none) : ancestors path = [path] := by
  rw [ancestors, ancestorsWithin_eq (Nat.le_refl _) (Nat.le_succ _), ancestorsWithin, h]

theorem ancestors_of_some {path parent : Path} (h : parent? path = some parent) :
    ancestors path = path :: ancestors parent := by
  rw [ancestors, ancestorsWithin_eq (Nat.le_refl _) (Nat.le_succ _), ancestorsWithin, h]
  exact congrArg (path :: ·)
    (ancestorsWithin_eq (Nat.le_of_lt (length_lt_of_parent? h)) (Nat.le_refl _))

theorem exists_ancestors (path : Path) : ∃ above, ancestors path = path :: above := by
  cases hparent : parent? path with
  | none => exact ⟨[], ancestors_of_none hparent⟩
  | some parent => exact ⟨ancestors parent, ancestors_of_some hparent⟩

/-- There are as many paths above a path as it has components, without the root. -/
theorem length_ancestors (path : Path) :
    (ancestors path).length + (if path.isAbsolute = true then 1 else 0) =
      path.components.length + 1 := by
  induction hlength : path.length using Nat.strong_induction_on generalizing path with
  | h length ih =>
    cases hparent : parent? path with
    | none =>
        rw [ancestors_of_none hparent]
        rcases parent?_eq_none hparent with rfl | ⟨habsolute, hroot⟩
        · rfl
        · rw [if_pos habsolute, hroot]
          rfl
    | some parent =>
        obtain ⟨-, ⟨last, hlast⟩, -, habsolute⟩ := parent?_eq_some hparent
        have hparents := ih parent.length (hlength ▸ length_lt_of_parent? hparent) parent rfl
        rw [ancestors_of_some hparent, hlast, List.length_cons, List.length_append,
          List.length_singleton, ← hparents, habsolute]
        omega

/-! ## The paths above -/

/-- A settled beginning of a path is the shortest one with its components. -/
theorem Settled.shortest {path upper : Path} (h : Settled upper) (hupper : upper <+: path) :
    path.Shortest upper.components upper := by
  refine ⟨hupper, rfl, ?_⟩
  intro other hother heq
  rcases List.prefix_or_prefix_of_prefix hupper hother with hle | hle
  · exact hle.length_le
  · rw [eq_of_settled h hle heq]

theorem Shortest.unique {path upper upper' : Path} {kept : List Text}
    (h : path.Shortest kept upper) (h' : path.Shortest kept upper') : upper = upper' := by
  have hlength : upper.length = upper'.length :=
    Nat.le_antisymm (h.least upper' h'.beginning h'.components)
      (h'.least upper h.beginning h.components)
  have hbegins : upper <+: upper' :=
    List.prefix_of_prefix_length_le h.beginning h'.beginning (Nat.le_of_eq hlength)
  exact hbegins.eq_of_length hlength

/-- What is shortest in a beginning of a path is shortest in the path. -/
theorem Shortest.of_isPrefix {path parent upper : Path} {kept : List Text}
    (h : parent.Shortest kept upper) (hparent : parent <+: path) : path.Shortest kept upper := by
  refine ⟨h.beginning.trans hparent, h.components, ?_⟩
  intro other hother heq
  rcases List.prefix_or_prefix_of_prefix hparent hother with hle | hle
  · exact Nat.le_trans h.beginning.length_le hle.length_le
  · exact h.least other hle heq

/-- A path above the parent lies above the path, one level more. -/
theorem Above.of_parent? {path parent upper : Path} {level : Nat}
    (hparent : parent? path = some parent) (h : parent.Above level upper) :
    path.Above (level + 1) upper := by
  obtain ⟨hbegins, ⟨last, hlast⟩, hsettled, habsolute⟩ := parent?_eq_some hparent
  cases h with
  | self =>
      show path.Above [last].length parent
      refine .cut hlast (List.cons_ne_nil _ _) ?_ (hsettled.shortest hbegins)
      intro hroot
      refine components_ne_nil ?_
      rintro rfl
      rw [← habsolute] at hroot
      exact nomatch hroot
  | @cut kept dropped _ hcut hdropped hroot hupper =>
      have hlonger : path.components = kept ++ (dropped ++ [last]) := by
        rw [hlast, hcut, List.append_assoc]
      have hlevel : dropped.length + 1 = (dropped ++ [last]).length := by simp
      rw [hlevel]
      exact .cut hlonger (by simp) (habsolute ▸ hroot) (hupper.of_isPrefix hbegins)

theorem above_of_getElem? {path upper : Path} {level : Nat}
    (h : (ancestors path)[level]? = some upper) : path.Above level upper := by
  induction level generalizing path with
  | zero =>
      obtain ⟨above, habove⟩ := exists_ancestors path
      rw [habove] at h
      exact Option.some.inj h ▸ .self
  | succ level ih =>
      cases hparent : parent? path with
      | none =>
          rw [ancestors_of_none hparent] at h
          exact nomatch h
      | some parent =>
          rw [ancestors_of_some hparent] at h
          exact (ih h).of_parent? hparent

/-- One path at most lies some number of levels above. -/
theorem Above.unique {path upper upper' : Path} {level : Nat} (h : path.Above level upper)
    (h' : path.Above level upper') : upper = upper' := by
  cases h with
  | self =>
      generalize hlevel : 0 = level at h'
      cases h' with
      | self => rfl
      | cut _ hdropped => exact absurd (List.length_eq_zero_iff.mp hlevel.symm) hdropped
  | @cut kept dropped _ hcut hdropped _ hupper =>
      generalize hlevel : dropped.length = level at h'
      cases h' with
      | self => exact absurd (List.length_eq_zero_iff.mp hlevel) hdropped
      | @cut kept' dropped' _ hcut' _ _ hupper' =>
          obtain ⟨rfl, -⟩ := List.append_inj' (hcut.symm.trans hcut') hlevel
          exact hupper.unique hupper'

/-- No path lies above the last one that is listed. -/
theorem Above.lt_length {path upper : Path} {level : Nat} (h : path.Above level upper) :
    level < (ancestors path).length := by
  cases h with
  | self =>
      obtain ⟨above, habove⟩ := exists_ancestors path
      rw [habove]
      exact Nat.succ_pos above.length
  | @cut kept dropped _ hcut _ hroot _ =>
      have hlength := length_ancestors path
      rw [hcut, List.length_append] at hlength
      split at hlength
      next habsolute =>
        have hkept := List.length_pos_iff.mpr (hroot habsolute)
        omega
      · omega

/-- **LEVEL BY LEVEL**: the paths above a path are listed in the order of their levels, and all of
    them are listed. -/
theorem getElem?_ancestors_eq_some_iff {path upper : Path} {level : Nat} :
    (ancestors path)[level]? = some upper ↔ path.Above level upper := by
  refine ⟨above_of_getElem?, ?_⟩
  intro h
  obtain ⟨found, hfound⟩ : ∃ found, (ancestors path)[level]? = some found :=
    ⟨_, List.getElem?_eq_getElem h.lt_length⟩
  rw [hfound, (above_of_getElem? hfound).unique h]

end SqlTemplate.Path
