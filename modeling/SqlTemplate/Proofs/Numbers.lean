import SqlTemplate.Binary64.Shortest

/-!
# Numbers — the shape of what is written for them

Integers and floats are written in plain positional notation, whatever the search for the shortest
decimal finds. `IsPositional` is that shape: digits, after a minus sign or without one, and perhaps
a point and further digits behind them.

* `isPositional_ofInt` and `Binary64.isPositional_text` say that all numbers are written in it;
* `IsPositional.isPositional` — they are the texts that the check of the same name recognises;
* `IsPositional.ne_nil` and `IsPositional.isNumeric` — so no number is written as the empty text,
  and digits, points and minus signs are all that numbers are made of.
-/

namespace SqlTemplate

namespace Numeral

/-- A text of digits, at least one. -/
structure IsDigits (text : Text) : Prop where
  ne_nil : text ≠ []
  all : ∀ c ∈ text, c.isDigit = true

/-- A digit is a character of numbers. -/
theorem isNumeric_of_isDigit {c : Char} (h : c.isDigit = true) : isNumeric c = true := by
  simp [isNumeric, h]

/-- The numeral of a natural number is digits. -/
theorem isDigits_ofNat (n : Nat) : IsDigits (ofNat n) :=
  ⟨ofNat_ne_nil n, fun _ h => isDigit_of_mem_ofNat h⟩

/-- Digits before further digits are digits. -/
theorem IsDigits.append {text more : Text} (h : IsDigits text)
    (hmore : ∀ c ∈ more, c.isDigit = true) : IsDigits (text ++ more) := by
  refine ⟨List.append_ne_nil_of_left_ne_nil h.ne_nil more, ?_⟩
  intro c hc
  rcases List.mem_append.mp hc with hleft | hright
  · exact h.all c hleft
  · exact hmore c hright

/-- A number in positional notation: digits, after a minus sign or without one, and perhaps a point
    and further digits behind them. -/
def IsPositional (text : Text) : Prop :=
  ∃ sign whole rest, text = sign ++ (whole ++ rest) ∧ (sign = [] ∨ sign = ['-']) ∧
    IsDigits whole ∧ (rest = [] ∨ ∃ fraction, rest = '.' :: fraction ∧ IsDigits fraction)

/-- A number is not the empty text. -/
theorem IsPositional.ne_nil {text : Text} (h : IsPositional text) : text ≠ [] := by
  obtain ⟨sign, whole, rest, rfl, -, hwhole, -⟩ := h
  exact List.append_ne_nil_of_right_ne_nil _ (List.append_ne_nil_of_left_ne_nil hwhole.ne_nil _)

/-- A number holds digits, points and minus signs only. -/
theorem IsPositional.isNumeric {text : Text} (h : IsPositional text) {c : Char} (hc : c ∈ text) :
    isNumeric c = true := by
  obtain ⟨sign, whole, rest, rfl, hsign, hwhole, hrest⟩ := h
  rcases List.mem_append.mp hc with hc | hc
  · rcases hsign with rfl | rfl
    · exact nomatch hc
    · rw [List.mem_singleton.mp hc]
      rfl
  · rcases List.mem_append.mp hc with hc | hc
    · exact isNumeric_of_isDigit (hwhole.all c hc)
    · rcases hrest with rfl | ⟨fraction, rfl, hfraction⟩
      · exact nomatch hc
      · rcases List.mem_cons.mp hc with rfl | hc
        · rfl
        · exact isNumeric_of_isDigit (hfraction.all c hc)

/-- Digits pass the check for a part of a number. -/
theorem IsDigits.check {text : Text} (h : IsDigits text) :
    (!text.isEmpty && text.all Char.isDigit) = true := by
  rw [List.all_eq_true.mpr h.all, Bool.and_true, List.isEmpty_eq_false_iff.mpr h.ne_nil]
  rfl

/-- No point stands among digits. -/
theorem IsDigits.no_point {text : Text} (h : IsDigits text) : '.' ∉ text :=
  fun hmem => absurd (h.all '.' hmem) (by decide)

/-- A number in positional notation is recognised as one. -/
theorem IsPositional.isPositional {text : Text} (h : IsPositional text) :
    isPositional text = true := by
  obtain ⟨sign, whole, rest, rfl, hsign, hwhole, hrest⟩ := h
  have hunsigned : (if (sign ++ (whole ++ rest)).head? = some '-' then
      (sign ++ (whole ++ rest)).tail else sign ++ (whole ++ rest)) = whole ++ rest := by
    rcases hsign with rfl | rfl
    · cases whole with
      | nil => exact absurd rfl hwhole.ne_nil
      | cons c whole =>
          refine if_neg fun hminus => ?_
          have hc : c = '-' := Option.some.inj hminus
          exact absurd (hc ▸ hwhole.all c List.mem_cons_self) (by decide)
    · exact if_pos rfl
  rw [Numeral.isPositional, hunsigned]
  rcases hrest with rfl | ⟨fraction, rfl, hfraction⟩
  · rw [List.append_nil, Text.parts_self hwhole.no_point]
    simp [hwhole.check]
  · rw [Text.parts_append hwhole.no_point, Text.parts_self hfraction.no_point]
    simp [hwhole.check, hfraction.check]

/-- An integer is written in positional notation. -/
theorem isPositional_ofInt (n : Int) : IsPositional (ofInt n) := by
  cases n with
  | ofNat n =>
      exact ⟨[], ofNat n, [], (List.append_nil _).symm, Or.inl rfl, isDigits_ofNat n, Or.inl rfl⟩
  | negSucc n =>
      refine ⟨['-'], ofNat (n + 1), [], ?_, Or.inr rfl, isDigits_ofNat (n + 1), Or.inl rfl⟩
      rw [List.append_nil]
      rfl

end Numeral

open Numeral

/-! ## Decimals -/

namespace Decimal

/-- A point put before some of the digits has digits on either side. -/
theorem pointed_shape {places : Nat} {digits : Text} (hplaces : 0 < places)
    (h : ∀ c ∈ digits, c.isDigit = true) :
    ∃ whole fraction, pointed places digits = whole ++ '.' :: fraction ∧
      IsDigits whole ∧ IsDigits fraction := by
  let padded := List.replicate (places + 1 - digits.length) '0' ++ digits
  have hlength : places + 1 ≤ padded.length := by
    simp only [padded, List.length_append, List.length_replicate]
    omega
  have hpadded : ∀ c ∈ padded, c.isDigit = true := by
    intro c hc
    rcases List.mem_append.mp hc with hzero | hdigit
    · rw [List.eq_of_mem_replicate hzero]
      rfl
    · exact h c hdigit
  refine ⟨padded.take (padded.length - places), padded.drop (padded.length - places), rfl, ?_, ?_⟩
  · refine ⟨?_, fun c hc => hpadded c (List.mem_of_mem_take hc)⟩
    refine List.ne_nil_of_length_pos ?_
    rw [List.length_take]
    omega
  · refine ⟨?_, fun c hc => hpadded c (List.mem_of_mem_drop hc)⟩
    refine List.ne_nil_of_length_pos ?_
    rw [List.length_drop]
    omega

/-- A decimal is written as digits, perhaps with a point and further digits behind them. -/
theorem text_shape (d : Decimal) : ∃ whole rest, d.text = whole ++ rest ∧ IsDigits whole ∧
    (rest = [] ∨ ∃ fraction, rest = '.' :: fraction ∧ IsDigits fraction) := by
  by_cases h : 0 ≤ d.exponent
  · refine ⟨ofNat d.units ++ List.replicate d.exponent.toNat '0', [], ?_, ?_, Or.inl rfl⟩
    · rw [List.append_nil]
      exact if_pos h
    · refine (isDigits_ofNat d.units).append fun c hc => ?_
      rw [List.eq_of_mem_replicate hc]
      rfl
  · have hplaces : 0 < (-d.exponent).toNat := by omega
    obtain ⟨whole, fraction, heq, hwhole, hfraction⟩ :=
      pointed_shape hplaces (isDigits_ofNat d.units).all
    refine ⟨whole, '.' :: fraction, ?_, hwhole, Or.inr ⟨fraction, rfl, hfraction⟩⟩
    rw [← heq]
    exact if_neg h

end Decimal

/-- A float is written in positional notation. -/
theorem Binary64.isPositional_text (x : Binary64) : IsPositional x.text := by
  obtain ⟨whole, rest, heq, hwhole, hrest⟩ := x.shortest.text_shape
  by_cases h : x.negative = true
  · exact ⟨['-'], whole, rest, by rw [text, if_pos h, heq], Or.inr rfl, hwhole, hrest⟩
  · exact ⟨[], whole, rest, by rw [text, if_neg h, heq], Or.inl rfl, hwhole, hrest⟩

end SqlTemplate
