import Mathlib.Data.List.Induction
import SqlTemplate.Proofs.FirstOccurrence
import SqlTemplate.Proofs.Written
import SqlTemplate.Sql.Lexeme

/-!
# Texts that read alike — equal but for the contents of their literals

Two texts read alike if a reader that does not look into string literals sees the same of both. A
search does look into them, so that it may find a placeholder in a literal of one text and not of
the other. Where it finds one outside of literals, it finds one in both texts, at places that
correspond:

* `Alike.append` — texts put in a row read alike if they do one by one, although a quote at the
  seam may go on with the literal before it;
* `exists_occurrence` — a placeholder among the lexemes is one in the text;
* **`Alike.cut`** — searches that end outside of literals cut texts that read alike into parts that
  read alike.
-/

namespace SqlTemplate.Sql

/-! ## Where a text ends -/

/-- A character is not seen, opens a literal, or is seen outside of literals. -/
theorem Place.emit_eq (place : Place) (c : Char) :
    place.emit c = [] ∧ (place ≠ .outside ∧ place.next c ≠ .outside) ∨
      place.emit c = [.string] ∧ place.next c ≠ .outside ∨
      place.emit c = [.char c] ∧ place.next c = .outside ∧ place.isClosed = true := by
  cases place with
  | outside =>
      by_cases h : c = '\''
      · have hnext : next .outside c = .inside := if_pos h
        refine Or.inr (Or.inl ⟨if_pos h, ?_⟩)
        rw [hnext]
        exact nofun
      · exact Or.inr (Or.inr ⟨if_neg h, if_neg h, rfl⟩)
  | inside =>
      refine Or.inl ⟨rfl, nofun, ?_⟩
      show (if c = '\\' then escaped else if c = '\'' then closing else inside) ≠ outside
      split
      · exact nofun
      · split
        · exact nofun
        · exact nofun
  | escaped => exact Or.inl ⟨rfl, nofun, nofun⟩
  | closing =>
      by_cases h : c = '\''
      · have hnext : next .closing c = .inside := if_pos h
        refine Or.inl ⟨if_pos h, nofun, ?_⟩
        rw [hnext]
        exact nofun
      · exact Or.inr (Or.inr ⟨if_neg h, if_neg h, rfl⟩)

/-- A text ends in a literal or right behind one exactly if that is the last of its lexemes. -/
theorem after_ne_outside_iff (text : Text) :
    Place.after .outside text ≠ .outside ↔ (lexemes text).getLast? = some .string := by
  -- from the back: what the last character shows is what decides
  induction text using List.reverseRecOn with
  | nil => exact ⟨fun h => absurd rfl h, nofun⟩
  | append_singleton text c ih =>
      have hafter : Place.after .outside (text ++ [c]) = (Place.after .outside text).next c :=
        Place.after_append _ _ _
      have hlast : lexemesFrom (Place.after .outside text) [c] =
          (Place.after .outside text).emit c := List.append_nil _
      have hlexemes : lexemes (text ++ [c]) =
          lexemes text ++ (Place.after .outside text).emit c :=
        (lexemesFrom_append _ _ _).trans (congrArg (lexemes text ++ ·) hlast)
      rw [hafter, hlexemes]
      rcases Place.emit_eq (Place.after .outside text) c with
        ⟨hemit, hplace, hnext⟩ | ⟨hemit, hnext⟩ | ⟨hemit, hnext, -⟩
      · rw [hemit, List.append_nil]
        exact ⟨fun _ => ih.mp hplace, fun _ => hnext⟩
      · rw [hemit, List.getLast?_concat]
        exact ⟨fun _ => rfl, fun _ => hnext⟩
      · rw [hemit, hnext, List.getLast?_concat]
        exact ⟨fun h => absurd rfl h, nofun⟩

/-- Outside of literals a reader stands behind one or not. -/
theorem Place.eq_closing {place : Place} (h : place.isClosed = true) (hplace : place ≠ .outside) :
    place = .closing := by
  cases place with
  | outside => exact absurd rfl hplace
  | inside => exact nomatch h
  | escaped => exact nomatch h
  | closing => rfl

/-- Texts that end outside of literals and show the same lexemes end at the same place. -/
theorem after_eq {text other : Text} (h : lexemes text = lexemes other)
    (hclosed : (Place.after .outside text).isClosed = true)
    (hother : (Place.after .outside other).isClosed = true) :
    Place.after .outside text = Place.after .outside other := by
  have hends := after_ne_outside_iff text
  rw [h, ← after_ne_outside_iff other] at hends
  by_cases hplace : Place.after .outside text = .outside
  · have hsame : ¬ Place.after .outside other ≠ .outside := fun hne => hends.mpr hne hplace
    rw [hplace, Decidable.of_not_not hsame]
  · rw [Place.eq_closing hclosed hplace, Place.eq_closing hother (hends.mp hplace)]

/-! ## Texts that read alike -/

/-- Two texts show the same lexemes, and both end outside of literals. -/
structure Alike (text other : Text) : Prop where
  lexemes_eq : lexemes text = lexemes other
  closed : (Place.after .outside text).isClosed = true
  other_closed : (Place.after .outside other).isClosed = true

/-- What follows a literal that may go on: without the opening of one that it goes on with. -/
def continued : List Lexeme → List Lexeme
  | .string :: rest => rest
  | shown => shown

/-- Behind a closing quote a reader sees what it sees outside of literals, less a literal that
    begins there. -/
theorem lexemesFrom_closing_eq (text : Text) :
    lexemesFrom .closing text = continued (lexemes text) := by
  cases text with
  | nil => rfl
  | cons c text =>
      by_cases h : c = '\''
      · rw [h]
        rfl
      · have hhead : (c :: text).head? ≠ some '\'' := fun heq => h (Option.some.inj heq)
        rw [lexemesFrom_closing hhead, lexemes, lexemesFrom, Place.emit, if_neg h]
        rfl

/-- A text ends outside of literals behind a closing quote if it does elsewhere. -/
theorem after_closing {text : Text} (h : (Place.after .outside text).isClosed = true) :
    (Place.after .closing text).isClosed = true := by
  cases text with
  | nil => rfl
  | cons c text => exact h

/-- **SEAMS**: texts in a row read alike if they do one by one. -/
theorem Alike.append {text other more another : Text} (h : Alike text other)
    (hmore : Alike more another) : Alike (text ++ more) (other ++ another) := by
  have hplace := after_eq h.lexemes_eq h.closed h.other_closed
  have hshown : lexemesFrom (Place.after .outside text) more =
      lexemesFrom (Place.after .outside text) another ∧
      ((Place.after .outside text).after more).isClosed = true ∧
      ((Place.after .outside text).after another).isClosed = true := by
    by_cases hat : Place.after .outside text = .outside
    · rw [hat]
      exact ⟨hmore.lexemes_eq, hmore.closed, hmore.other_closed⟩
    · -- a quote at the front of what follows goes on with the literal, in both texts or in none
      rw [Place.eq_closing h.closed hat, lexemesFrom_closing_eq, lexemesFrom_closing_eq,
        hmore.lexemes_eq]
      exact ⟨rfl, after_closing hmore.closed, after_closing hmore.other_closed⟩
  refine ⟨?_, ?_, ?_⟩
  · rw [lexemes, lexemes, lexemesFrom_append, lexemesFrom_append, ← hplace, hshown.1]
    exact congrArg (· ++ _) h.lexemes_eq
  · rw [Place.after_append]
    exact hshown.2.1
  · rw [Place.after_append, ← hplace]
    exact hshown.2.2

/-- A text without quotes shows its characters and ends outside of literals. -/
theorem lexemes_of_no_quote {text : Text} (h : '\'' ∉ text) :
    lexemes text = text.map .char ∧ Place.after .outside text = .outside := by
  induction text with
  | nil => exact ⟨rfl, rfl⟩
  | cons c text ih =>
      have hc : c ≠ '\'' := fun heq => h (heq ▸ List.mem_cons_self)
      obtain ⟨hshown, hafter⟩ := ih fun hmem => h (List.mem_cons_of_mem c hmem)
      constructor
      · rw [lexemes, lexemesFrom, Place.emit, Place.next, if_neg hc, if_neg hc, ← lexemes, hshown]
        rfl
      · rw [Place.after, List.foldl_cons, Place.next, if_neg hc]
        exact hafter

/-- A text without quotes reads like itself. -/
theorem alike_self {text : Text} (h : '\'' ∉ text) : Alike text text := by
  have hclosed : (Place.after .outside text).isClosed = true := by
    rw [(lexemes_of_no_quote h).2]
    rfl
  exact ⟨rfl, hclosed, hclosed⟩

/-! ## Placeholders among lexemes -/

/-- A placeholder behind a place outside of literals shows its characters. -/
theorem lexemesFrom_token {place : Place} (h : place.isClosed = true) (placeholder : Placeholder) :
    lexemesFrom place placeholder.token = placeholder.token.map .char ∧
      place.after placeholder.token = .outside := by
  by_cases hplace : place = .outside
  · rw [hplace]
    cases placeholder <;> exact ⟨rfl, rfl⟩
  · rw [Place.eq_closing h hplace]
    cases placeholder <;> exact ⟨rfl, rfl⟩

/-- What a text with a placeholder outside of literals shows. -/
theorem lexemes_cut {before : Text} (h : (Place.after .outside before).isClosed = true)
    (placeholder : Placeholder) (after : Text) :
    lexemes (before ++ placeholder.token ++ after) =
        lexemes before ++ (placeholder.token.map .char ++ lexemes after) ∧
      Place.after .outside (before ++ placeholder.token ++ after) =
        Place.after .outside after := by
  obtain ⟨htoken, hafter⟩ := lexemesFrom_token h placeholder
  constructor
  · rw [lexemes, List.append_assoc, lexemesFrom_append, lexemesFrom_append, htoken, hafter]
    rfl
  · rw [List.append_assoc, Place.after_append, Place.after_append, hafter]

/-- Characters that are seen outside of literals are the first of the text. -/
theorem exists_rest_of_chars {chars text : Text} {back : List Lexeme}
    (h : lexemes text = chars.map .char ++ back) : ∃ rest, text = chars ++ rest := by
  induction chars generalizing text with
  | nil => exact ⟨text, rfl⟩
  | cons d chars ih =>
      cases text with
      | nil => exact nomatch h
      | cons c text =>
          have hshown : Place.emit .outside c ++ lexemesFrom (Place.next .outside c) text =
              .char d :: (chars.map .char ++ back) := h
          rcases Place.emit_eq .outside c with ⟨-, hplace, -⟩ | ⟨hemit, -⟩ | ⟨hemit, hnext, -⟩
          · exact absurd rfl hplace
          · rw [hemit] at hshown
            exact nomatch (List.cons.inj hshown).1
          · rw [hemit, hnext] at hshown
            obtain ⟨hhead, htail⟩ := List.cons.inj hshown
            obtain ⟨rest, hrest⟩ := ih htail
            exact ⟨rest, by rw [hrest, Lexeme.char.inj hhead]; rfl⟩

/-- **OCCURRENCES**: characters in a row among the lexemes of a text stand in a row in the text,
    outside of literals. -/
theorem exists_occurrence {place : Place} {chars text : Text} {front back : List Lexeme}
    (hchars : chars ≠ []) (h : lexemesFrom place text = front ++ (chars.map .char ++ back)) :
    ∃ before after, text = before ++ chars ++ after ∧ lexemesFrom place before = front := by
  induction text generalizing place front with
  | nil =>
      have hnil := (List.append_eq_nil_iff.mp (List.append_eq_nil_iff.mp h.symm).2).1
      exact absurd (List.map_eq_nil_iff.mp hnil) hchars
  | cons c text ih =>
      have hsplit : place.emit c ++ lexemesFrom (place.next c) text =
          front ++ (chars.map .char ++ back) := h
      -- a row that begins behind the character is one of the rest
      have hbehind (shown : List Lexeme) (hshown : front = place.emit c ++ shown) :
          ∃ before after, c :: text = before ++ chars ++ after ∧
            lexemesFrom place before = front := by
        rw [hshown, List.append_assoc] at hsplit
        obtain ⟨before, after, htext, hbefore⟩ := ih (List.append_cancel_left hsplit)
        refine ⟨c :: before, after, by rw [htext]; rfl, ?_⟩
        show place.emit c ++ lexemesFrom (place.next c) before = front
        rw [hbefore, hshown]
      rcases List.append_eq_append_iff.mp hsplit with ⟨shown, hfront, -⟩ | ⟨shown, hemit, hrow⟩
      · exact hbehind shown hfront
      · cases shown with
        | nil => exact hbehind [] (by rw [hemit, List.append_nil, List.append_nil])
        | cons lexeme others =>
            obtain ⟨d, tail, rfl⟩ := List.exists_cons_of_ne_nil hchars
            obtain ⟨hlexeme, htail⟩ := List.cons.inj hrow
            have hsingle (shown : Lexeme) (hshown : place.emit c = [shown]) :
                front = [] ∧ shown = .char d ∧ others = [] := by
              rw [hshown, ← hlexeme] at hemit
              rcases List.append_eq_singleton_iff.mp hemit.symm with ⟨hnil, hcons⟩ | ⟨-, hcons⟩
              · exact ⟨hnil, (List.cons.inj hcons).1.symm, (List.cons.inj hcons).2⟩
              · exact nomatch hcons
            rcases Place.emit_eq place c with ⟨hnone, -⟩ | ⟨hstring, -⟩ | ⟨hchar, hnext, -⟩
            · rw [hnone] at hemit
              exact absurd hemit.symm (List.append_ne_nil_of_right_ne_nil _ (List.cons_ne_nil _ _))
            · exact nomatch (hsingle _ hstring).2.1
            · obtain ⟨rfl, hc, rfl⟩ := hsingle _ hchar
              rw [hnext] at htail
              have hshown : lexemes text = tail.map .char ++ back := htail.symm
              obtain ⟨rest, hrest⟩ := exists_rest_of_chars hshown
              refine ⟨[], rest, ?_, rfl⟩
              rw [hrest, Lexeme.char.inj hc]
              rfl

/-! ## Searches -/

/-- The first part of a text shows no more than the text. -/
theorem length_lexemes_le_of_append (before after : Text) :
    (lexemes before).length ≤ (lexemes (before ++ after)).length := by
  rw [lexemes, lexemes, lexemesFrom_append, List.length_append]
  exact Nat.le_add_right _ _

section Cut

variable {text other before behind front back : Text} {placeholder : Placeholder}

/-- A placeholder found outside of literals in one of two texts that read alike occurs in the other
    one behind the same lexemes. -/
theorem Alike.exists_occurrence (h : Alike text other)
    (hcut : text.splitFirst? placeholder.token = some (before, behind))
    (hclosed : (Place.after .outside before).isClosed = true) :
    ∃ front back, other = front ++ placeholder.token ++ back ∧
      lexemes front = lexemes before := by
  have htoken : placeholder.token ≠ [] := by
    cases placeholder <;> exact nofun
  have hshown := (lexemes_cut hclosed placeholder behind).1
  rw [← Text.splitFirst?_eq_some hcut, h.lexemes_eq] at hshown
  exact Sql.exists_occurrence htoken hshown

/-- The search of the other text cuts it no further right. -/
theorem Alike.length_le (h : Alike text other)
    (hcut : text.splitFirst? placeholder.token = some (before, behind))
    (hclosed : (Place.after .outside before).isClosed = true)
    (hother : other.splitFirst? placeholder.token = some (front, back)) :
    (lexemes front).length ≤ (lexemes before).length := by
  obtain ⟨first, rest, heq, hfirst⟩ := h.exists_occurrence hcut hclosed
  have hle := Text.length_le_of_splitFirst?_eq_some hother first rest heq
  obtain ⟨between, hbetween⟩ : ∃ between, first = front ++ between := by
    have hcuts := Text.splitFirst?_eq_some hother
    rw [heq, List.append_assoc, List.append_assoc] at hcuts
    obtain ⟨between, hprefix⟩ := List.prefix_of_prefix_length_le
      ⟨_, rfl⟩ ⟨_, hcuts⟩ hle
    exact ⟨between, hprefix.symm⟩
  rw [← hfirst, hbetween]
  exact length_lexemes_le_of_append front between

/-- A search that succeeds outside of literals in one of two texts that read alike succeeds in the
    other one. -/
theorem Alike.isSome (h : Alike text other)
    (hcut : text.splitFirst? placeholder.token = some (before, behind))
    (hclosed : (Place.after .outside before).isClosed = true) :
    other.splitFirst? placeholder.token ≠ none := by
  intro hnone
  obtain ⟨front, back, heq, -⟩ := h.exists_occurrence hcut hclosed
  exact Text.splitFirst?_eq_none hnone front back heq

/-- Texts that read alike do so in the other order. -/
theorem Alike.symm (h : Alike text other) : Alike other text :=
  ⟨h.lexemes_eq.symm, h.other_closed, h.closed⟩

/-- **CUTS**: searches that end outside of literals cut texts that read alike into parts that read
    alike. -/
theorem Alike.cut (h : Alike text other)
    (hcut : text.splitFirst? placeholder.token = some (before, behind))
    (hclosed : (Place.after .outside before).isClosed = true)
    (hother : other.splitFirst? placeholder.token = some (front, back))
    (hfront : (Place.after .outside front).isClosed = true) :
    Alike before front ∧ Alike behind back := by
  -- neither search cuts further right than the other, so both cut behind the same lexemes
  have hlength : (lexemes before).length = (lexemes front).length :=
    Nat.le_antisymm (h.symm.length_le hother hfront hcut) (h.length_le hcut hclosed hother)
  obtain ⟨hshown, hafter⟩ := lexemes_cut hclosed placeholder behind
  obtain ⟨hothershown, hotherafter⟩ := lexemes_cut hfront placeholder back
  rw [← Text.splitFirst?_eq_some hcut] at hshown hafter
  rw [← Text.splitFirst?_eq_some hother] at hothershown hotherafter
  have hsame := h.lexemes_eq
  rw [hshown, hothershown] at hsame
  obtain ⟨hbefore, htail⟩ := List.append_inj hsame hlength
  refine ⟨⟨hbefore, hclosed, hfront⟩, ⟨List.append_cancel_left htail, ?_, ?_⟩⟩
  · rw [← hafter]
    exact h.closed
  · rw [← hotherafter]
    exact h.other_closed

end Cut

end SqlTemplate.Sql
