import SqlTemplate.Compilation.OnePass
import SqlTemplate.Proofs.Filling

/-!
# One pass — rewriting step by step is filling claimed places at once

A compilation searches the text reached so far, which earlier parameters have changed and made
longer or shorter. `OnePass.filled` never looks at that text: each parameter claims a place of the
resolved template, and all claimed places are filled at the end. The two agree as long as what is
put in is `Inert`: not empty, without question marks, and no continuation of a placeholder.

The invariant of the run is that the text reached so far is the template with the places claimed so
far filled. One step keeps it because

* `exists_free_of_filledFrom` — an occurrence in the filled text is one in the template that nobody
  has claimed: no seam makes a placeholder;
* `filledFrom_of_free` — an unclaimed occurrence in the template is still one in the filled text: no
  replacement destroys a placeholder;
* `filledFrom_of_claim` — replacing that occurrence is what filling one more claim does.

**`put_filled`** is the step, **`foldl_put_filled`** the run, and `compile_eq_filled` the whole
compilation.
-/

namespace SqlTemplate

/-- A text that takes no part in later searches. -/
structure Text.Inert (written : Text) : Prop where
  ne_nil : written ≠ []
  unmarked : '?' ∉ written
  neutral : written.Neutral

namespace OnePass

/-! ## Places that are free -/

/-- No claim is on a position. -/
def Free (claimed : List Claim) (position : Nat) : Prop :=
  ∀ claim ∈ claimed, claim.position ≠ position

/-- A position is free exactly if the search for a claim on it fails. -/
theorem find?_eq_none_iff_free {claimed : List Claim} {position : Nat} :
    (claimed.find? fun claim => claim.position == position) = none ↔ Free claimed position := by
  rw [List.find?_eq_none]
  refine forall₂_congr fun claim _ => ?_
  rw [beq_iff_eq]

/-- A token occurs at a position exactly if the text can be cut there. -/
theorem occursAt_iff {text token : Text} {position : Nat} :
    occursAt text token position = true ↔ ∃ after, text.drop position = token ++ after := by
  rw [occursAt, Option.isSome_iff_exists]
  exact exists_congr fun after => Text.after?_eq_some_iff

/-- What the search for a place accepts: a free occurrence of the token. -/
theorem accepted_iff {text token before after : Text} {claimed : List Claim}
    (heq : text = before ++ (token ++ after)) :
    (occursAt text token before.length &&
      claimed.all fun claim => claim.position != before.length) = true ↔
        Free claimed before.length := by
  have hoccurs : occursAt text token before.length = true :=
    occursAt_iff.mpr ⟨after, by rw [heq, List.drop_left]⟩
  rw [hoccurs, Bool.true_and, List.all_eq_true]
  refine forall₂_congr fun claim _ => ?_
  rw [bne_iff_ne]

/-- The place of a token is a free occurrence, and no free occurrence begins further left. -/
theorem place?_eq_some {text token : Text} {claimed : List Claim} {position : Nat}
    (h : place? text token claimed = some position) :
    (∃ before after, text = before ++ (token ++ after) ∧ before.length = position ∧
      Free claimed position) ∧
    ∀ before after, text = before ++ (token ++ after) → Free claimed before.length →
      position ≤ before.length := by
  obtain ⟨haccepted, hmem, hleast⟩ := List.find?_range_eq_some.mp h
  have hlt : position < text.length := List.mem_range.mp hmem
  constructor
  · obtain ⟨after, hdrop⟩ := occursAt_iff.mp (Bool.and_eq_true_iff.mp haccepted).1
    have hlength : (text.take position).length = position :=
      List.length_take_of_le (Nat.le_of_lt hlt)
    have heq : text = text.take position ++ (token ++ after) := by
      rw [← hdrop, List.take_append_drop]
    refine ⟨text.take position, after, heq, hlength, ?_⟩
    rw [← hlength] at haccepted
    rw [← hlength]
    exact (accepted_iff heq).mp haccepted
  · intro before after heq hfree
    refine Nat.le_of_not_lt fun hbefore => ?_
    have hrefused := hleast before.length hbefore
    rw [(accepted_iff heq).mpr hfree] at hrefused
    exact nomatch hrefused

/-- A token without a place has no free occurrence. -/
theorem place?_eq_none {text token : Text} {claimed : List Claim} (htoken : token ≠ [])
    (h : place? text token claimed = none) (before after : Text)
    (heq : text = before ++ (token ++ after)) : ¬ Free claimed before.length := by
  intro hfree
  have hlt : before.length < text.length := by
    have hpos : 0 < token.length := List.length_pos_of_ne_nil htoken
    rw [heq, List.length_append, List.length_append]
    omega
  exact List.find?_eq_none.mp h before.length (List.mem_range.mpr hlt)
    ((accepted_iff heq).mpr hfree)

/-! ## Claims that are placed on placeholders -/

/-- Claims stand where placeholders of a text that begins at `position` are: each on a question
    mark, and one of two characters on a letter too. -/
def Placed (claimed : List Claim) (position : Nat) (text : Text) : Prop :=
  ∀ claim ∈ claimed, ∀ i, claim.position = position + i → text[i]? = some '?' ∧
    (claim.length = 1 ∨
      claim.length = 2 ∧ ∃ c ∈ Placeholder.letters, text[i + 1]? = some c)

/-- Claims are placed on what follows a character too. -/
theorem Placed.tail {claimed : List Claim} {position : Nat} {c : Char} {text : Text}
    (h : Placed claimed position (c :: text)) : Placed claimed (position + 1) text := by
  intro claim hclaim i hi
  have hnext := h claim hclaim (i + 1) (by omega)
  simpa using hnext

/-- The end of a filled place lies before the next question mark. -/
theorem Placed.length_le {claimed : List Claim} {position : Nat} {c : Char} {mid rest : Text}
    (h : Placed claimed position (c :: (mid ++ '?' :: rest))) {claim : Claim}
    (hclaim : claim ∈ claimed) (hposition : claim.position = position) :
    claim.length - 1 ≤ mid.length := by
  obtain ⟨-, hone | ⟨htwo, d, hd, hletter⟩⟩ := h claim hclaim 0 hposition
  · omega
  · cases mid with
    | nil =>
        have hmark : '?' = d := by simpa using hletter
        rw [← hmark] at hd
        exact absurd hd (by decide)
    | cons e mid =>
        rw [List.length_cons]
        omega

/-! ## Filled texts -/

/-- A text without claims stays as it is. -/
theorem filledFrom_nil (position : Nat) (text : Text) : filledFrom [] position 0 text = text := by
  induction text generalizing position with
  | nil => rfl
  | cons c text ih =>
      show c :: filledFrom [] (position + 1) 0 text = c :: text
      rw [ih]

/-- A free character is kept. -/
theorem filledFrom_cons_free {claimed : List Claim} {position : Nat} (h : Free claimed position)
    (c : Char) (text : Text) :
    filledFrom claimed position 0 (c :: text) = c :: filledFrom claimed (position + 1) 0 text := by
  rw [filledFrom, find?_eq_none_iff_free.mpr h]

/-- A claimed character gives way to the text of its claim. -/
theorem filledFrom_cons_claim {claimed : List Claim} {position : Nat} {claim : Claim}
    (h : (claimed.find? fun claim => claim.position == position) = some claim)
    (c : Char) (text : Text) :
    filledFrom claimed position 0 (c :: text) =
      claim.written ++ filledFrom claimed (position + 1) (claim.length - 1) text := by
  rw [filledFrom, h]

/-- A filled place ends before the next question mark, so a filled text can be cut there. -/
theorem filledFrom_append_mark {claimed : List Claim} {position skipped : Nat} {mid rest : Text}
    (h : Placed claimed position (mid ++ '?' :: rest)) (hskipped : skipped ≤ mid.length) :
    filledFrom claimed position skipped (mid ++ '?' :: rest) =
      filledFrom claimed position skipped mid ++
        filledFrom claimed (position + mid.length) 0 ('?' :: rest) := by
  induction mid generalizing position skipped with
  | nil =>
      rw [Nat.le_zero.mp hskipped]
      rfl
  | cons c mid ih =>
      have hposition : position + (c :: mid).length = position + 1 + mid.length := by
        rw [List.length_cons]
        omega
      rw [hposition, List.cons_append]
      cases skipped with
      | succ skipped =>
          have hle : skipped ≤ mid.length := Nat.le_of_succ_le_succ hskipped
          show filledFrom claimed (position + 1) skipped (mid ++ '?' :: rest) = _
          rw [ih h.tail hle]
          rfl
      | zero =>
          cases hfind : claimed.find? fun claim => claim.position == position with
          | none =>
              have hfree : Free claimed position := find?_eq_none_iff_free.mp hfind
              rw [filledFrom_cons_free hfree, filledFrom_cons_free hfree,
                ih h.tail (Nat.zero_le _)]
              rfl
          | some claim =>
              have hat : claim.position = position := by
                simpa using List.find?_some hfind
              have hle : claim.length - 1 ≤ mid.length :=
                h.length_le (List.mem_of_find?_eq_some hfind) hat
              rw [filledFrom_cons_claim hfind, filledFrom_cons_claim hfind, ih h.tail hle,
                List.append_assoc]

/-- Claims with one more claim behind them fill the same, away from its position. -/
theorem filledFrom_claim_elsewhere {claimed : List Claim} {claim : Claim} {position skipped : Nat}
    {text : Text} (h : ∀ i < text.length, claim.position ≠ position + i) :
    filledFrom (claimed ++ [claim]) position skipped text =
      filledFrom claimed position skipped text := by
  induction text generalizing position skipped with
  | nil => rfl
  | cons c text ih =>
      have htail : ∀ i < text.length, claim.position ≠ position + 1 + i := by
        intro i hi
        have hnext := h (i + 1) (by rw [List.length_cons]; omega)
        omega
      have hhere : (claim.position == position) = false := by
        rw [beq_eq_false_iff_ne]
        exact h 0 (by rw [List.length_cons]; omega)
      cases skipped with
      | succ skipped => exact ih htail
      | zero =>
          have hfind : ((claimed ++ [claim]).find? fun claim => claim.position == position) =
              claimed.find? fun claim => claim.position == position := by
            rw [List.find?_append, List.find?_singleton, hhere]
            simp
          rw [filledFrom, filledFrom, hfind]
          cases claimed.find? fun claim => claim.position == position with
          | none => exact congrArg (c :: ·) (ih htail)
          | some found => exact congrArg (found.written ++ ·) (ih htail)

/-- The front of a text is filled to the front of the filled text. -/
theorem filledFrom_append (claimed : List Claim) (position skipped : Nat) (text more : Text) :
    ∃ rest, filledFrom claimed position skipped (text ++ more) =
      filledFrom claimed position skipped text ++ rest := by
  induction text generalizing position skipped with
  | nil => exact ⟨_, (List.nil_append _).symm⟩
  | cons c text ih =>
      cases skipped with
      | succ skipped => exact ih (position + 1) skipped
      | zero =>
          cases hfind : claimed.find? fun claim => claim.position == position with
          | none =>
              have hfree : Free claimed position := find?_eq_none_iff_free.mp hfind
              obtain ⟨rest, hrest⟩ := ih (position + 1) 0
              refine ⟨rest, ?_⟩
              rw [List.cons_append, filledFrom_cons_free hfree, filledFrom_cons_free hfree, hrest]
              rfl
          | some claim =>
              obtain ⟨rest, hrest⟩ := ih (position + 1) (claim.length - 1)
              refine ⟨rest, ?_⟩
              rw [List.cons_append, filledFrom_cons_claim hfind, filledFrom_cons_claim hfind,
                hrest, List.append_assoc]

/-- **NO SEAM MARKS**: a question mark in a filled text is a free one of the text, and what stands
    before and behind it is filled alike. -/
theorem exists_free_mark {claimed : List Claim} (hunmarked : ∀ claim ∈ claimed, '?' ∉ claim.written)
    {position skipped : Nat} {text front back : Text}
    (h : filledFrom claimed position skipped text = front ++ '?' :: back) :
    ∃ before after, text = before ++ '?' :: after ∧ Free claimed (position + before.length) ∧
      front = filledFrom claimed position skipped before ∧
      back = filledFrom claimed (position + before.length + 1) 0 after := by
  induction text generalizing position skipped front with
  | nil => exact absurd h.symm (by rw [filledFrom]; simp)
  | cons c text ih =>
      -- what the tail says of its own mark, put behind the first character
      have hnext {skipped : Nat} {front : Text}
          (h : filledFrom claimed (position + 1) skipped text = front ++ '?' :: back) :
          ∃ before after, c :: text = c :: before ++ '?' :: after ∧
            Free claimed (position + (c :: before).length) ∧
            front = filledFrom claimed (position + 1) skipped before ∧
            back = filledFrom claimed (position + (c :: before).length + 1) 0 after := by
        obtain ⟨before, after, heq, hfree, hfront, hback⟩ := ih h
        have hposition : position + 1 + before.length = position + (c :: before).length := by
          rw [List.length_cons]
          omega
        rw [hposition] at hfree hback
        exact ⟨before, after, by rw [heq]; rfl, hfree, hfront, hback⟩
      cases skipped with
      | succ skipped =>
          obtain ⟨before, after, heq, hfree, hfront, hback⟩ := hnext h
          exact ⟨c :: before, after, heq, hfree, hfront, hback⟩
      | zero =>
          cases hfind : claimed.find? fun claim => claim.position == position with
          | none =>
              have hfree : Free claimed position := find?_eq_none_iff_free.mp hfind
              rw [filledFrom_cons_free hfree] at h
              cases front with
              | nil =>
                  obtain ⟨hc, hback⟩ := List.cons.inj h
                  exact ⟨[], text, by rw [hc]; rfl, hfree, rfl, hback.symm⟩
              | cons d front =>
                  obtain ⟨hc, htail⟩ := List.cons.inj h
                  obtain ⟨before, after, heq, hfree', hfront, hback⟩ := hnext htail
                  refine ⟨c :: before, after, heq, hfree', ?_, hback⟩
                  rw [filledFrom_cons_free hfree, ← hc, ← hfront]
          | some claim =>
              have hwritten : '?' ∉ claim.written :=
                hunmarked claim (List.mem_of_find?_eq_some hfind)
              rw [filledFrom_cons_claim hfind] at h
              -- the mark lies behind the written text, which holds none
              obtain ⟨inner, hfront, hinner⟩ : ∃ inner, front = claim.written ++ inner ∧
                  filledFrom claimed (position + 1) (claim.length - 1) text =
                    inner ++ '?' :: back := by
                rcases Text.append_eq_append_cons h with hbehind | ⟨inner, hwritten', -⟩
                · exact hbehind
                · exact absurd (by rw [hwritten']; simp) hwritten
              obtain ⟨before, after, heq, hfree, hbefore, hback⟩ := hnext hinner
              refine ⟨c :: before, after, heq, hfree, ?_, hback⟩
              rw [filledFrom_cons_claim hfind, hfront, hbefore]

/-! ## Placeholders in filled texts -/

/-- **NO SEAM MAKES A PLACEHOLDER**: an occurrence in a filled text is a free one of the text. -/
theorem exists_free_of_filledFrom {claimed : List Claim}
    (hinert : ∀ claim ∈ claimed, claim.written.Inert) {placeholder : Placeholder}
    {text front back : Text}
    (h : filledFrom claimed 0 0 text = front ++ (placeholder.token ++ back)) :
    ∃ before after, text = before ++ (placeholder.token ++ after) ∧ Free claimed before.length ∧
      front = filledFrom claimed 0 0 before := by
  rcases placeholder.token_eq with htoken | ⟨c, hc, htoken⟩
  · rw [htoken] at h ⊢
    obtain ⟨before, after, heq, hfree, hfront, -⟩ :=
      exists_free_mark (fun claim hclaim => (hinert claim hclaim).unmarked) h
    rw [Nat.zero_add] at hfree
    exact ⟨before, after, heq, hfree, hfront⟩
  · rw [htoken] at h ⊢
    obtain ⟨before, after, heq, hfree, hfront, hback⟩ :=
      exists_free_mark (fun claim hclaim => (hinert claim hclaim).unmarked) h
    rw [Nat.zero_add] at hfree hback
    -- the letter behind the mark is one of the text: no written text begins with it
    cases after with
    | nil => exact nomatch hback
    | cons d after =>
        cases hfind : claimed.find? fun claim => claim.position == before.length + 1 with
        | none =>
            rw [filledFrom_cons_free (find?_eq_none_iff_free.mp hfind)] at hback
            have hd : c = d := (List.cons.inj hback).1
            exact ⟨before, after, by rw [heq, hd]; rfl, hfree, hfront⟩
        | some claim =>
            have hwritten : claim.written.Inert := hinert claim (List.mem_of_find?_eq_some hfind)
            rw [filledFrom_cons_claim hfind] at hback
            cases hcases : claim.written with
            | nil => exact absurd hcases hwritten.ne_nil
            | cons e written =>
                rw [hcases] at hback
                have he : c = e := (List.cons.inj hback).1
                refine absurd ?_ (hwritten.neutral c hc)
                rw [hcases, he, List.head?_cons]

/-- **NO REPLACEMENT DESTROYS A PLACEHOLDER**: a free occurrence in the text is one in the filled
    text. -/
theorem filledFrom_of_free {claimed : List Claim} {placeholder : Placeholder}
    {before after : Text} (hplaced : Placed claimed 0 (before ++ (placeholder.token ++ after)))
    (hfree : Free claimed before.length) :
    filledFrom claimed 0 0 (before ++ (placeholder.token ++ after)) =
      filledFrom claimed 0 0 before ++ (placeholder.token ++
        filledFrom claimed (before.length + placeholder.token.length) 0 after) := by
  rcases placeholder.token_eq with htoken | ⟨c, hc, htoken⟩
  · rw [htoken] at hplaced ⊢
    have hcut := filledFrom_append_mark hplaced (Nat.zero_le _)
    rw [Nat.zero_add, filledFrom_cons_free hfree] at hcut
    exact hcut
  · rw [htoken] at hplaced ⊢
    have hletter : Free claimed (before.length + 1) := by
      intro claim hclaim hposition
      obtain ⟨hmark, -⟩ := hplaced claim hclaim (before.length + 1) (by omega)
      have hc' : c = '?' := by simpa using hmark
      rw [hc'] at hc
      exact absurd hc (by decide)
    have hcut := filledFrom_append_mark hplaced (Nat.zero_le _)
    rw [Nat.zero_add, filledFrom_cons_free hfree] at hcut
    refine hcut.trans (congrArg (filledFrom claimed 0 0 before ++ '?' :: ·) ?_)
    exact filledFrom_cons_free hletter c after

/-- A claim on a free occurrence fills it, and nothing else changes. -/
theorem filledFrom_of_claim {claimed : List Claim} {claim : Claim} {placeholder : Placeholder}
    {before after : Text} (hposition : claim.position = before.length)
    (hlength : claim.length = placeholder.token.length)
    (hplaced : Placed (claimed ++ [claim]) 0 (before ++ (placeholder.token ++ after)))
    (hfree : Free claimed before.length) :
    filledFrom (claimed ++ [claim]) 0 0 (before ++ (placeholder.token ++ after)) =
      filledFrom claimed 0 0 before ++ (claim.written ++
        filledFrom claimed (before.length + placeholder.token.length) 0 after) := by
  have hfind : ((claimed ++ [claim]).find? fun claim => claim.position == before.length) =
      some claim := by
    rw [List.find?_append, find?_eq_none_iff_free.mpr hfree]
    simp [hposition]
  have hfront : filledFrom (claimed ++ [claim]) 0 0 before = filledFrom claimed 0 0 before :=
    filledFrom_claim_elsewhere fun i hi => by omega
  have hback (position : Nat) (h : before.length < position) :
      filledFrom (claimed ++ [claim]) position 0 after = filledFrom claimed position 0 after :=
    filledFrom_claim_elsewhere fun i hi => by omega
  -- both characters of a typed placeholder give way: the claim skips its letter
  rcases placeholder.token_eq with htoken | ⟨c, -, htoken⟩
  · rw [htoken] at hplaced hlength ⊢
    have hcut := filledFrom_append_mark hplaced (Nat.zero_le _)
    rw [Nat.zero_add, filledFrom_cons_claim hfind, hfront, hlength] at hcut
    exact hcut.trans (congrArg
      (fun rest => filledFrom claimed 0 0 before ++ (claim.written ++ rest))
      (hback (before.length + 1) (by omega)))
  · rw [htoken] at hplaced hlength ⊢
    have hcut := filledFrom_append_mark hplaced (Nat.zero_le _)
    rw [Nat.zero_add, filledFrom_cons_claim hfind, hfront, hlength] at hcut
    exact hcut.trans (congrArg
      (fun rest => filledFrom claimed 0 0 before ++ (claim.written ++ rest))
      (hback (before.length + 1 + 1) (by omega)))

/-! ## One step, and the whole run -/

/-- A claim on an occurrence is placed. -/
theorem Placed.append {claimed : List Claim} {text before after : Text} {placeholder : Placeholder}
    (h : Placed claimed 0 text) (heq : text = before ++ (placeholder.token ++ after))
    (written : Text) :
    Placed (claimed ++ [⟨before.length, placeholder.token.length, written⟩]) 0 text := by
  intro claim hclaim i hi
  rcases List.mem_append.mp hclaim with hold | hnew
  · exact h claim hold i hi
  · rw [List.mem_singleton.mp hnew] at hi ⊢
    have hposition : i = before.length := by
      rw [← Nat.zero_add i]
      exact hi.symm
    rw [hposition, heq]
    rcases placeholder.token_eq with htoken | ⟨c, hc, htoken⟩
    · rw [htoken]
      exact ⟨by simp, Or.inl rfl⟩
    · rw [htoken]
      exact ⟨by simp, Or.inr ⟨rfl, c, hc, by simp⟩⟩

/-- **THE STEP**: putting one inert text in place is filling the place that it claims. -/
theorem put_filled {text : Text} {claimed : List Claim} (hplaced : Placed claimed 0 text)
    (hinert : ∀ claim ∈ claimed, claim.written.Inert) (placeholder : Placeholder)
    (written : Text) :
    Compilation.put (filledFrom claimed 0 0 text) (placeholder, written) =
      match place? text placeholder.token claimed with
      | some position =>
        filledFrom (claimed ++ [⟨position, placeholder.token.length, written⟩]) 0 0 text
      | none => filledFrom claimed 0 0 text := by
  have htoken : placeholder.token ≠ [] := by
    cases placeholder <;> exact List.cons_ne_nil _ _
  cases hplace : place? text placeholder.token claimed with
  | none =>
      have hmiss : (filledFrom claimed 0 0 text).splitFirst? placeholder.token = none := by
        cases hsplit : (filledFrom claimed 0 0 text).splitFirst? placeholder.token with
        | none => rfl
        | some found =>
            obtain ⟨front, back⟩ := found
            have hcut := Text.splitFirst?_eq_some hsplit
            rw [List.append_assoc] at hcut
            obtain ⟨before, after, heq, hfree, -⟩ := exists_free_of_filledFrom hinert hcut
            exact absurd hfree (place?_eq_none htoken hplace before after heq)
      exact Compilation.put_of_missing hmiss
  | some position =>
      obtain ⟨⟨before, after, heq, hlength, hfree⟩, hleast⟩ := place?_eq_some hplace
      rw [← hlength] at hfree ⊢
      have hplaced' := hplaced.append heq written
      rw [heq] at hplaced hplaced' hleast ⊢
      have hcut := filledFrom_of_free hplaced hfree
      -- an occurrence further left would be one of the text, before its place
      have hsplit : (filledFrom claimed 0 0 (before ++ (placeholder.token ++ after))).splitFirst?
          placeholder.token = some (filledFrom claimed 0 0 before,
            filledFrom claimed (before.length + placeholder.token.length) 0 after) := by
        refine Text.splitFirst?_eq_some_iff.mpr ⟨by rw [hcut, List.append_assoc], ?_⟩
        intro front back hother
        rw [List.append_assoc] at hother
        obtain ⟨before', after', heq', hfree', hfront⟩ := exists_free_of_filledFrom hinert hother
        have hle : position ≤ before'.length := hleast before' after' heq' hfree'
        rw [← hlength] at hle
        obtain ⟨between, hbefore'⟩ : before <+: before' :=
          List.prefix_of_prefix_length_le ⟨_, rfl⟩ ⟨_, heq'.symm⟩ hle
        obtain ⟨rest, hrest⟩ := filledFrom_append claimed 0 0 before between
        rw [hfront, ← hbefore', hrest, List.length_append]
        exact Nat.le_add_right _ _
      exact (Compilation.put_of_found hsplit).trans
        (filledFrom_of_claim rfl rfl hplaced' hfree).symm

/-- **THE RUN**: putting inert texts in place one after the other is filling the places that they
    claim, all at once. -/
theorem foldl_put_filled {text : Text} {pairs : List (Placeholder × Text)}
    (hpairs : ∀ pair ∈ pairs, pair.2.Inert) {claimed : List Claim}
    (hplaced : Placed claimed 0 text) (hinert : ∀ claim ∈ claimed, claim.written.Inert) :
    pairs.foldl Compilation.put (filledFrom claimed 0 0 text) =
      filledFrom (claims text claimed (pairs.map fun pair => (pair.1.token, pair.2))) 0 0 text := by
  induction pairs generalizing claimed with
  | nil => rfl
  | cons pair pairs ih =>
      obtain ⟨placeholder, written⟩ := pair
      have hwritten : written.Inert := hpairs _ List.mem_cons_self
      have hrest : ∀ pair ∈ pairs, pair.2.Inert := fun pair h => hpairs pair (.tail _ h)
      rw [List.foldl_cons, put_filled hplaced hinert, List.map_cons, claims]
      cases hplace : place? text placeholder.token claimed with
      | none => exact ih hrest hplaced hinert
      | some position =>
          obtain ⟨⟨before, after, heq, hlength, -⟩, -⟩ := place?_eq_some hplace
          refine ih hrest (hlength ▸ hplaced.append heq written) ?_
          intro claim hclaim
          rcases List.mem_append.mp hclaim with hold | hnew
          · exact hinert claim hold
          · rw [List.mem_singleton.mp hnew]
            exact hwritten

end OnePass

/-- **ONE PASS**: a compilation that succeeds with texts that are not empty and hold no question
    mark fills the resolved template in one pass, each parameter the first unclaimed occurrence of
    its placeholder. -/
theorem compile_eq_filled {escape : Escaper} {template sql : Text} {params : List Value}
    (hparams : params ≠ []) (hsql : compile escape template params = .ok sql)
    (hplain : ∀ argument ∈ Compilation.arguments params, ∀ written,
      argument.2.text escape = .ok written → written ≠ [] ∧ '?' ∉ written) :
    ∃ pairs, Compilation.fillings escape params = .ok pairs ∧
      sql = OnePass.filled (Block.resolve (params.any Value.isSkip) template)
        (pairs.map fun pair => (pair.1.token, pair.2)) := by
  obtain ⟨pairs, hpairs, rfl⟩ := (compile_eq_ok_iff hparams).mp hsql
  refine ⟨pairs, hpairs, ?_⟩
  have hinert : ∀ pair ∈ pairs, pair.2.Inert := by
    intro pair hpair
    obtain ⟨argument, hargument, hfilling⟩ := exists_item_of_mapM_eq_ok hpairs hpair
    obtain ⟨htext, -⟩ := Compilation.filling_eq_ok_iff.mp hfilling
    obtain ⟨hne, hmark⟩ := hplain argument hargument pair.2 htext
    exact ⟨hne, hmark, Param.text_neutral htext⟩
  have hplaced : OnePass.Placed [] 0 (Block.resolve (params.any Value.isSkip) template) :=
    fun _ h => nomatch h
  have hrun := OnePass.foldl_put_filled hinert hplaced fun _ h => nomatch h
  rw [OnePass.filledFrom_nil] at hrun
  exact hrun

/-- A null takes the mark of the first placeholder, and the integer goes to the next one of its own
    kind. -/
theorem compile_eq_filled_null_first :
    ∃ pairs, Compilation.fillings id [.null, .int (-7), .skip, .bool true] = .ok pairs ∧
      "NULLd-7 1".toList = OnePass.filled (Block.resolve true "?d?d{?d} ?d".toList)
        (pairs.map fun pair => (pair.1.token, pair.2)) := by
  refine compile_eq_filled (by decide) (by decide) fun argument hmem written h => ?_
  have harguments : Compilation.arguments [.null, .int (-7), .skip, .bool true] =
      [(0, .null), (1, .int (-7)), (3, .bool true)] := rfl
  rw [harguments] at hmem
  simp only [List.mem_cons, List.not_mem_nil, or_false] at hmem
  rcases hmem with rfl | rfl | rfl
  · rw [← Except.ok.inj h]
    decide
  · rw [← Except.ok.inj h]
    decide
  · rw [← Except.ok.inj h]
    decide

end SqlTemplate
