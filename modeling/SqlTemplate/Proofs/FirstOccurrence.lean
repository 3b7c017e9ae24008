import SqlTemplate.Text

/-!
# First occurrences — a search finds the leftmost one

`Text.splitFirst?` is the one search of a compilation. This file says exactly what it finds, so that
no later argument opens its recursion:

* **`splitFirst?_eq_some_iff`** — it cuts a text around a token where no other occurrence of the
  token begins further left;
* `splitFirst?_mark` — for a single character that is the cut behind a text without it.
-/

namespace SqlTemplate.Text

/-- No occurrence of a token begins further left than the one that a search finds. -/
theorem length_le_of_splitFirst?_eq_some {text token before after : Text}
    (h : text.splitFirst? token = some (before, after)) :
    ∀ front back : Text, text = front ++ token ++ back → before.length ≤ front.length := by
  induction text generalizing before after with
  | nil =>
      intro front back _
      obtain ⟨rest, -, hpair⟩ := Option.map_eq_some_iff.mp h
      rw [← (Prod.mk.inj hpair).1]
      exact Nat.zero_le _
  | cons c text ih =>
      intro front back heq
      simp only [splitFirst?] at h
      split at h
      next rest _ =>
        rw [← (Prod.mk.inj (Option.some.inj h)).1]
        exact Nat.zero_le _
      next hmiss =>
        obtain ⟨⟨b, a⟩, hsplit, hpair⟩ := Option.map_eq_some_iff.mp h
        rw [← (Prod.mk.inj hpair).1]
        cases front with
        | nil =>
            -- an occurrence at the very front is what the search tries first
            have hfound : after? (c :: text) token = some back :=
              after?_eq_some_iff.mpr heq
            rw [hfound] at hmiss
            exact absurd hmiss (Option.some_ne_none _)
        | cons d front =>
            have hrest : text = front ++ token ++ back := (List.cons.inj heq).2
            exact Nat.succ_le_succ (ih hsplit front back hrest)

/-- **LEFTMOST**: a search cuts a text around a token exactly where no occurrence of the token
    begins further left. -/
theorem splitFirst?_eq_some_iff {text token before after : Text} :
    text.splitFirst? token = some (before, after) ↔
      text = before ++ token ++ after ∧
        ∀ front back : Text, text = front ++ token ++ back → before.length ≤ front.length := by
  constructor
  · intro h
    exact ⟨splitFirst?_eq_some h, length_le_of_splitFirst?_eq_some h⟩
  · rintro ⟨heq, hleast⟩
    cases hsplit : text.splitFirst? token with
    | none => exact absurd heq (splitFirst?_eq_none hsplit before after)
    | some found =>
        obtain ⟨front, back⟩ := found
        have hfront : text = front ++ token ++ back := splitFirst?_eq_some hsplit
        have hle : before.length ≤ front.length := hleast front back hfront
        have hge : front.length ≤ before.length :=
          length_le_of_splitFirst?_eq_some hsplit before after heq
        have hcut : front ++ (token ++ back) = before ++ (token ++ after) := by
          rw [← List.append_assoc, ← List.append_assoc, ← hfront, heq]
        obtain ⟨hb, htail⟩ := List.append_inj hcut (Nat.le_antisymm hge hle)
        rw [hb, List.append_cancel_left htail]

/-- A character of two texts in a row lies in the second one or in the first one. -/
theorem append_eq_append_cons {text more before after : Text} {c : Char}
    (h : text ++ more = before ++ c :: after) :
    (∃ between, before = text ++ between ∧ more = between ++ c :: after) ∨
      ∃ between, text = before ++ c :: between ∧ after = between ++ more := by
  rcases List.append_eq_append_iff.mp h with ⟨between, hbefore, hmore⟩ | ⟨between, htext, hafter⟩
  · exact Or.inl ⟨between, hbefore, hmore⟩
  · cases between with
    | nil => exact Or.inl ⟨[], by rw [htext]; simp, hafter.symm⟩
    | cons d between =>
        obtain ⟨rfl, hrest⟩ := List.cons.inj hafter
        exact Or.inr ⟨between, htext, hrest⟩

/-- Behind a text without a mark, the first occurrence of the mark is the next character. -/
theorem splitFirst?_mark {mark : Char} {before : Text} (h : mark ∉ before) (after : Text) :
    (before ++ mark :: after).splitFirst? [mark] = some (before, after) := by
  refine splitFirst?_eq_some_iff.mpr ⟨by simp, ?_⟩
  intro front back heq
  rw [List.append_assoc] at heq
  rcases append_eq_append_cons heq with ⟨between, hfront, -⟩ | ⟨between, hbefore, -⟩
  · rw [hfront, List.length_append]
    exact Nat.le_add_right _ _
  · exact absurd (by rw [hbefore]; simp) h

end SqlTemplate.Text
