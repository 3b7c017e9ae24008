import Mathlib.Data.List.DropRight
import SqlTemplate.Path.Component

/-!
# Components — how much the beginnings of a path say

The pieces of a path are what the library calls a list split at a separator. A path that goes on
does not say less, and says more with each character of a last piece that is a component. So a path
that ends with a component is the shortest of the beginnings that say as much:

* `Text.parts_eq_splitOn` opens the library's lemmas on pieces;
* `components_append_piece` — the last piece of a path is a component or says nothing;
* `weight_le_of_isPrefix` — a beginning of a path says no more than the path;
* **`eq_of_settled`** — and less than it, if the path ends with a component.
-/

namespace SqlTemplate

/-! ## Pieces -/

theorem Text.parts_eq_splitOn (mark : Char) (text : Text) :
    parts mark text = text.splitOn mark := by
  induction text with
  | nil => rfl
  | cons c text ih =>
      rw [parts, List.splitOn_cons_eq_if_modifyHead, ← ih]
      by_cases h : c = mark
      · rw [if_pos h, if_pos (beq_iff_eq.mpr h)]
      · rw [if_neg h, if_neg (mt beq_iff_eq.mp h)]
        cases hparts : parts mark text with
        | nil => exact absurd (ih.symm.trans hparts) (List.splitOn_ne_nil mark text)
        | cons part others => rfl

namespace Path

theorem pieces_ne_nil (path : Path) : pieces path ≠ [] := by
  rw [pieces, Text.parts_eq_splitOn]
  exact List.splitOn_ne_nil '/' path

theorem pieces_append (path more : Path) :
    pieces (path ++ '/' :: more) = pieces path ++ pieces more := by
  rw [pieces, pieces, pieces, Text.parts_eq_splitOn, Text.parts_eq_splitOn, Text.parts_eq_splitOn]
  exact List.splitOn_append_cons_self path more

theorem pieces_plain {piece : Text} (h : '/' ∉ piece) : pieces piece = [piece] :=
  Text.parts_self h

theorem pieces_ofPieces {texts : List Text} (h : ∀ text ∈ texts, '/' ∉ text) (hne : texts ≠ []) :
    pieces (ofPieces texts) = texts := by
  rw [pieces, ofPieces, Text.parts_eq_splitOn]
  exact List.splitOn_intercalate '/' h hne

theorem ofPieces_pieces (path : Path) : ofPieces (pieces path) = path :=
  Text.join_parts '/' path

/-- A path is one piece, or has a last one behind its last slash. -/
theorem exists_last_piece (path : Path) :
    '/' ∉ path ∨ ∃ base piece, path = base ++ '/' :: piece ∧ '/' ∉ piece := by
  by_cases h : '/' ∈ path
  · obtain ⟨back, front, hcut, hback⟩ :=
      List.eq_append_cons_of_mem (List.mem_reverse.mpr h)
    refine Or.inr ⟨front.reverse, back.reverse, ?_, mt List.mem_reverse.mp hback⟩
    rw [← List.reverse_reverse path, hcut]
    simp
  · exact Or.inl h

theorem slash_not_mem_of_mem_pieces {path : Path} {piece : Text} (h : piece ∈ pieces path) :
    '/' ∉ piece := by
  induction hlength : path.length using Nat.strong_induction_on generalizing path with
  | h length ih =>
    rcases exists_last_piece path with hplain | ⟨base, last, rfl, hlast⟩
    · rw [pieces_plain hplain, List.mem_singleton] at h
      exact h ▸ hplain
    · rw [pieces_append, pieces_plain hlast] at h
      rcases List.mem_append.mp h with hbase | hpiece
      · refine ih base.length ?_ hbase rfl
        rw [← hlength, List.length_append, List.length_cons]
        omega
      · exact List.mem_singleton.mp hpiece ▸ hlast

theorem ofPieces_singleton (text : Text) : ofPieces [text] = text := by
  rw [ofPieces, Text.join, List.intercalate_singleton]

/-- A piece with others behind it has a slash behind it. -/
theorem ofPieces_cons (text : Text) {more : List Text} (h : more ≠ []) :
    ofPieces (text :: more) = text ++ '/' :: ofPieces more := by
  rw [ofPieces, Text.join, List.intercalate_cons_of_ne_nil h, List.append_assoc]
  rfl

theorem ofPieces_append {texts more : List Text} (h : texts ≠ []) (hmore : more ≠ []) :
    ofPieces (texts ++ more) = ofPieces texts ++ '/' :: ofPieces more := by
  induction texts with
  | nil => exact absurd rfl h
  | cons text texts ih =>
      cases texts with
      | nil => rw [List.singleton_append, ofPieces_cons text hmore, ofPieces_singleton]
      | cons next texts =>
          rw [List.cons_append, ofPieces_cons text (by simp), ih (List.cons_ne_nil next texts),
            ofPieces_cons text (List.cons_ne_nil next texts), List.append_assoc, List.cons_append]

/-! ## Components -/

/-- The pieces that make a component each. -/
theorem components_of_pieces {path : Path} {first : Text} {rest : List Text} (hne : path ≠ [])
    (h : pieces path = first :: rest) :
    path.components = origin first :: rest.filter fun piece => !isIdle piece := by
  rw [components, if_neg hne, h]

theorem components_ne_nil {path : Path} (h : path ≠ []) : path.components ≠ [] := by
  cases hpieces : pieces path with
  | nil => exact absurd hpieces (pieces_ne_nil path)
  | cons first rest =>
      rw [components_of_pieces h hpieces]
      exact List.cons_ne_nil _ _

/-- A path without a slash is its one component. -/
theorem components_plain {path : Path} (hne : path ≠ []) (h : '/' ∉ path) :
    path.components = [path] := by
  rw [components_of_pieces hne (pieces_plain h), origin, if_neg hne]
  rfl

/-- A slash behind a path says nothing. -/
theorem components_concat_slash {path : Path} (h : path ≠ []) :
    (path ++ ['/']).components = path.components := by
  cases hpieces : pieces path with
  | nil => exact absurd hpieces (pieces_ne_nil path)
  | cons first rest =>
      have hlonger : pieces (path ++ ['/']) = first :: (rest ++ [[]]) := by
        rw [pieces_append, hpieces]
        rfl
      rw [components_of_pieces (by simp) hlonger, components_of_pieces h hpieces,
        List.filter_append]
      simp [isIdle]

/-- The last piece of a path is a component unless it is idle. -/
theorem components_append_piece (base : Path) {piece : Text} (h : '/' ∉ piece) :
    (base ++ '/' :: piece).components =
      (base ++ ['/']).components ++ [piece].filter fun piece => !isIdle piece := by
  cases hpieces : pieces base with
  | nil => exact absurd hpieces (pieces_ne_nil base)
  | cons first rest =>
      have hpath (last : Text) (hlast : '/' ∉ last) :
          pieces (base ++ '/' :: last) = first :: (rest ++ [last]) := by
        rw [pieces_append, pieces_plain hlast, hpieces]
        rfl
      rw [components_of_pieces (by simp) (hpath piece h),
        components_of_pieces (by simp) (hpath [] List.not_mem_nil), List.filter_append,
        List.filter_append]
      simp [isIdle]

/-! ## How much a path says -/

/-- The number of characters in the components of a path. -/
def weight (path : Path) : Nat :=
  path.components.flatten.length

theorem weight_plain {path : Path} (hne : path ≠ []) (h : '/' ∉ path) :
    weight path = path.length := by
  rw [weight, components_plain hne h, List.flatten_singleton]

/-- A last piece counts in full or not at all. -/
theorem weight_append_piece (base : Path) {piece : Text} (h : '/' ∉ piece) :
    weight (base ++ '/' :: piece) =
      weight (base ++ ['/']) + if isIdle piece = true then 0 else piece.length := by
  rw [weight, weight, components_append_piece base h, List.flatten_append, List.length_append]
  cases hidle : isIdle piece with
  | true => simp [hidle]
  | false => simp [hidle]

/-- Only the empty piece can be continued to an idle one. -/
theorem isIdle_concat {piece : Text} (c : Char) (h : isIdle piece = false) :
    isIdle (piece ++ [c]) = false := by
  cases piece with
  | nil => exact nomatch h
  | cons d piece => simp [isIdle]

/-- A path does not say less when it goes on. -/
theorem weight_concat (path : Path) (c : Char) : weight path ≤ weight (path ++ [c]) := by
  by_cases hempty : path = []
  · subst hempty
    exact Nat.zero_le _
  by_cases hc : c = '/'
  · rw [hc, weight, weight, components_concat_slash hempty]
  rcases exists_last_piece path with hplain | ⟨base, piece, rfl, hpiece⟩
  · have hlonger : '/' ∉ path ++ [c] := by simp [hplain, Ne.symm hc]
    rw [weight_plain hempty hplain, weight_plain (by simp) hlonger, List.length_append]
    exact Nat.le_add_right _ _
  · have hlonger : '/' ∉ piece ++ [c] := by simp [hpiece, Ne.symm hc]
    rw [List.append_assoc, List.cons_append, weight_append_piece base hpiece,
      weight_append_piece base hlonger]
    refine Nat.add_le_add_left ?_ _
    cases hidle : isIdle piece with
    | true => exact Nat.zero_le _
    | false =>
        rw [isIdle_concat c hidle, List.length_append]
        exact Nat.le_add_right _ _

theorem weight_le_of_isPrefix {path longer : Path} (h : path <+: longer) :
    weight path ≤ weight longer := by
  obtain ⟨more, rfl⟩ := h
  induction more using List.reverseRecOn with
  | nil => rw [List.append_nil]
  | append_singleton more c ih =>
      rw [← List.append_assoc]
      exact Nat.le_trans ih (weight_concat (path ++ more) c)

/-! ## Paths that end with a component -/

/-- The last character of a path counts. -/
def Settled (path : Path) : Prop :=
  ∀ front c, path = front ++ [c] → weight front < weight path

theorem settled_nil : Settled [] := by
  intro front c h
  simp at h

theorem settled_root : Settled ['/'] := by
  intro front c h
  obtain ⟨rfl, rfl⟩ : front = [] ∧ c = '/' := by
    cases front with
    | nil => exact ⟨rfl, (List.cons.inj h).1.symm⟩
    | cons d front => simp at h
  decide

theorem settled_plain {path : Path} (h : '/' ∉ path) : Settled path := by
  rintro front c rfl
  have hfront : '/' ∉ front := fun hmem => h (List.mem_append_left _ hmem)
  rw [weight_plain (by simp) h, List.length_append, List.length_singleton, Nat.lt_succ_iff]
  by_cases hempty : front = []
  · subst hempty
    exact Nat.le_refl 0
  · rw [weight_plain hempty hfront]

/-- A path with a component behind its last slash ends with that. -/
theorem settled_append_piece (base : Path) {piece : Text} (h : '/' ∉ piece)
    (hnamed : isIdle piece = false) : Settled (base ++ '/' :: piece) := by
  intro front c hcut
  cases piece using List.reverseRecOn with
  | nil => exact nomatch hnamed
  | append_singleton piece d =>
      have hcuts : (base ++ '/' :: piece) ++ [d] = front ++ [c] := by simpa using hcut
      obtain ⟨hfront, -⟩ := List.append_inj' hcuts rfl
      have hpiece : '/' ∉ piece := fun hmem => h (List.mem_append_left _ hmem)
      rw [← hfront, weight_append_piece base hpiece, weight_append_piece base h, hnamed,
        List.length_append]
      split
      · simp
      · simp

/-- **SETTLED**: no other beginning of a path that ends with a component says as much. -/
theorem eq_of_settled {path other : Path} (h : Settled path) (hother : other <+: path)
    (heq : other.components = path.components) : other = path := by
  by_contra hne
  cases path using List.reverseRecOn with
  | nil => exact hne (List.prefix_nil.mp hother)
  | append_singleton front c =>
      rcases List.prefix_concat_iff.mp hother with hwhole | hfront
      · exact hne hwhole
      · have hless : weight other < weight (front ++ [c]) :=
          Nat.lt_of_le_of_lt (weight_le_of_isPrefix hfront) (h front c rfl)
        rw [weight, weight, heq] at hless
        exact Nat.lt_irrefl _ hless

end Path
end SqlTemplate
