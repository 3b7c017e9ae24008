import SqlTemplate.Proofs.Bytes
import SqlTemplate.Text.Slice

/-!
# Boundaries — cuts of bytes are cuts of characters

What is done on the bytes of a text comes out as if it had been done on its characters, provided
that it cuts between them.

* `utf8EncodeChar_eq_cons` — a character is one byte that begins it and others that go on with it;
* **`isBoundary_encode`** — so the test of a position finds those between characters;
* `slice?_encode` — a slice between characters is the form of the characters there;
* `isPrefixOf_encode` — a pattern of bytes below 128 is in front of a text in its bytes exactly if
  it is in its characters, since all bytes of other characters are 128 or more;
* **`find?_encode`** — so a search through the bytes finds what one through the characters finds.
-/

namespace SqlTemplate

open Bytes

/-! ## The bytes of one character -/

/-- A byte begins a character and the others go on with it. -/
theorem utf8EncodeChar_eq_cons (c : Char) :
    ∃ b tail, String.utf8EncodeChar c = b :: tail ∧ goesOn b = false ∧
      ∀ b' ∈ tail, goesOn b' = true := by
  -- the marker of a first byte is below 128 or from 192 on, and that of the others is 128
  have hfirst {n : Nat} (h : n < 0x80 ∨ 0xc0 ≤ n) (h' : n < 256) :
      goesOn (UInt8.ofNat n) = false := by
    rw [goesOn, UInt8.toNat_ofNat_of_lt' h', Bool.and_eq_false_iff, decide_eq_false_iff_not,
      decide_eq_false_iff_not]
    omega
  have hother {n : Nat} (h : 0x80 ≤ n) (h' : n < 0xc0) : goesOn (UInt8.ofNat n) = true := by
    rw [goesOn, UInt8.toNat_ofNat_of_lt' (by change n < 256; omega), Bool.and_eq_true,
      decide_eq_true_eq, decide_eq_true_eq]
    exact ⟨h, h'⟩
  unfold String.utf8EncodeChar
  simp only
  split
  · exact ⟨_, [], rfl, hfirst (by omega) (by omega), nofun⟩
  · split
    · refine ⟨_, _, rfl, hfirst (by omega) (by omega), ?_⟩
      simp only [List.forall_mem_cons]
      exact ⟨hother (by omega) (by omega), nofun⟩
    · split
      · refine ⟨_, _, rfl, hfirst (by omega) (by omega), ?_⟩
        simp only [List.forall_mem_cons]
        exact ⟨hother (by omega) (by omega), hother (by omega) (by omega), nofun⟩
      · refine ⟨_, _, rfl, hfirst (by omega) (by omega), ?_⟩
        simp only [List.forall_mem_cons]
        exact ⟨hother (by omega) (by omega), hother (by omega) (by omega),
          hother (by omega) (by omega), nofun⟩

/-- A character below 128 is its own byte. -/
theorem utf8EncodeChar_of_lt {c : Char} (h : c.toNat < 0x80) :
    String.utf8EncodeChar c = [.ofNat c.toNat] :=
  if_pos (Nat.le_of_lt_succ h)

/-- Bytes that go on with a character are none of the short ones. -/
theorem goesOn_ofNat {n : Nat} (h : n < 0x80) : goesOn (UInt8.ofNat n) = false := by
  rw [goesOn, UInt8.toNat_ofNat_of_lt' (by change n < 256; omega), Bool.and_eq_false_iff,
    decide_eq_false_iff_not]
  omega

theorem Text.encode_cons (c : Char) (text : Text) :
    encode (c :: text) = String.utf8EncodeChar c ++ encode text := rfl

/-! ## Positions -/

/-- Inside a character there is nothing to cut. -/
theorem isBoundary_inside {c : Char} {position : Nat} (hpos : 0 < position)
    (hinside : position < c.utf8Size) (text : Text) :
    isBoundary (Text.encode (c :: text)) position = false := by
  obtain ⟨b, tail, hchar, -, htail⟩ := utf8EncodeChar_eq_cons c
  obtain ⟨offset, rfl⟩ := Nat.exists_eq_add_of_lt hpos
  have hoffset : offset < tail.length := by
    rw [← String.length_utf8EncodeChar, hchar, List.length_cons] at hinside
    omega
  have hbyte : (Text.encode (c :: text))[0 + offset + 1]? = some tail[offset] := by
    rw [Text.encode_cons, hchar]
    simp [List.getElem?_append_left hoffset]
  rw [isBoundary, hbyte]
  simp [htail _ (List.getElem_mem hoffset)]

/-- Behind a character the cuts are those of the text that follows. -/
theorem isBoundary_behind (c : Char) (text : Text) (offset : Nat) :
    isBoundary (Text.encode (c :: text)) (c.utf8Size + offset) =
      isBoundary (Text.encode text) offset := by
  have hbyte : (Text.encode (c :: text))[c.utf8Size + offset]? = (Text.encode text)[offset]? := by
    rw [Text.encode_cons, ← String.length_utf8EncodeChar,
      List.getElem?_append_right (Nat.le_add_right _ _), Nat.add_sub_cancel_left]
  have hlength : (Text.encode (c :: text)).length = c.utf8Size + (Text.encode text).length := by
    rw [Text.encode_cons, List.length_append, String.length_utf8EncodeChar]
  have hpos : (c.utf8Size + offset == 0) = false := by
    have := c.utf8Size_pos
    exact beq_eq_false_iff_ne.mpr (by omega)
  rw [isBoundary, isBoundary, hbyte, hlength, hpos]
  cases offset with
  | zero =>
      -- where the next character begins, there is a byte that begins it, or the end
      cases text with
      | nil => simp [Text.encode]
      | cons d text =>
          obtain ⟨b, tail, hchar, hbegins, -⟩ := utf8EncodeChar_eq_cons d
          rw [Text.encode_cons d, hchar]
          simp [hbegins]
  | succ n =>
      cases (Text.encode text)[n + 1]? with
      | none =>
          rw [Bool.eq_iff_iff]
          simp
      | some b => simp

/-- **BOUNDARIES**: a position may be cut exactly if it lies between characters. -/
theorem isBoundary_encode (text : Text) (position : Nat) :
    isBoundary text.encode position = true ↔ text.Between position := by
  constructor
  · intro h
    induction text generalizing position with
    | nil =>
        refine ⟨[], [], rfl, ?_⟩
        simpa [isBoundary, Text.encode, Text.byteLength] using h
    | cons c text ih =>
        rcases Nat.eq_zero_or_pos position with rfl | hpos
        · exact ⟨[], c :: text, rfl, rfl⟩
        · rcases Nat.lt_or_ge position c.utf8Size with hinside | hbehind
          · rw [isBoundary_inside hpos hinside] at h
            exact absurd h Bool.false_ne_true
          · obtain ⟨offset, rfl⟩ := Nat.exists_eq_add_of_le hbehind
            rw [isBoundary_behind] at h
            obtain ⟨front, behind, rfl, rfl⟩ := ih offset h
            exact ⟨c :: front, behind, rfl, rfl⟩
  · rintro ⟨front, behind, rfl, rfl⟩
    induction front with
    | nil => rfl
    | cons c front ih =>
        rw [List.cons_append, Text.byteLength, isBoundary_behind]
        exact ih

/-- Between two texts there is a cut. -/
theorem isBoundary_byteLength (front behind : Text) :
    isBoundary (front ++ behind).encode front.byteLength = true :=
  (isBoundary_encode _ _).mpr ⟨front, behind, rfl, rfl⟩

/-- A slice between characters is the form of the characters there. -/
theorem slice?_encode (front middle behind : Text) :
    slice? (front ++ (middle ++ behind)).encode front.byteLength
        (front.byteLength + middle.byteLength) = some middle.encode := by
  have hstop : isBoundary (front ++ (middle ++ behind)).encode
      (front.byteLength + middle.byteLength) = true := by
    rw [← List.append_assoc, ← Text.byteLength_append]
    exact isBoundary_byteLength _ _
  rw [slice?, if_pos ⟨Nat.le_add_right _ _, isBoundary_byteLength _ _, hstop⟩, Span.slice]
  simp only [Text.encode_append, ← Text.length_encode, Nat.add_sub_cancel_left, List.drop_left,
    List.take_left]

/-! ## The search -/

/-- A text of characters below 128. -/
def Text.Short (text : Text) : Prop :=
  ∀ c ∈ text, c.toNat < 0x80

theorem ofNat_toNat_inj {c d : Char} (hc : c.toNat < 0x80) (hd : d.toNat < 0x80)
    (h : UInt8.ofNat c.toNat = UInt8.ofNat d.toNat) : c = d := by
  have htoNat := congrArg UInt8.toNat h
  rw [UInt8.toNat_ofNat_of_lt' (by change c.toNat < 256; omega),
    UInt8.toNat_ofNat_of_lt' (by change d.toNat < 256; omega)] at htoNat
  exact Char.toNat_inj.mp htoNat

/-- A short text is in front of another one in their bytes exactly if it is in their characters. -/
theorem isPrefixOf_encode {token : Text} (h : token.Short) (text : Text) :
    token.encode.isPrefixOf text.encode = (text.after? token).isSome := by
  induction token generalizing text with
  | nil => cases text <;> rfl
  | cons d token ih =>
      have hd : d.toNat < 0x80 := h d List.mem_cons_self
      have htoken : Text.Short token := fun c hc => h c (List.mem_cons_of_mem d hc)
      rw [Text.encode_cons, utf8EncodeChar_of_lt hd, List.singleton_append]
      cases text with
      | nil => rfl
      | cons c text =>
          rw [Text.encode_cons, Text.after?]
          by_cases hcd : c = d
          · subst hcd
            rw [utf8EncodeChar_of_lt hd, if_pos rfl, ← ih htoken]
            simp
          · have hbyte :
                ∃ b tail, String.utf8EncodeChar c = b :: tail ∧ UInt8.ofNat d.toNat ≠ b := by
              rcases utf8EncodeChar_cases c with ⟨hc, hone⟩ | hlong
              · refine ⟨_, [], hone, ?_⟩
                intro heq
                exact hcd (ofNat_toNat_inj hd hc heq).symm
              · obtain ⟨b, tail, hchar, -, -⟩ := utf8EncodeChar_eq_cons c
                refine ⟨b, tail, hchar, ?_⟩
                rintro rfl
                have hle := hlong (UInt8.ofNat d.toNat) (by rw [hchar]; exact List.mem_cons_self)
                rw [UInt8.toNat_ofNat_of_lt' (by change d.toNat < 256; omega)] at hle
                omega
            obtain ⟨b, tail, hchar, hne⟩ := hbyte
            rw [hchar, if_neg hcd]
            simp [List.isPrefixOf, hne]

/-- A search passes over bytes that are not the first one of its pattern. -/
theorem find?_append {first : UInt8} {pattern plain : Bytes} (h : ∀ b ∈ plain, b ≠ first)
    (bytes : Bytes) :
    find? (first :: pattern) (plain ++ bytes) =
      (find? (first :: pattern) bytes).map (· + plain.length) := by
  induction plain with
  | nil => simp
  | cons b plain ih =>
      have hb : b ≠ first := h b List.mem_cons_self
      have hprefix : (first :: pattern).isPrefixOf (b :: (plain ++ bytes)) = false := by
        simp [List.isPrefixOf, hb.symm]
      rw [List.cons_append, find?, hprefix, ih fun b' hb' => h b' (List.mem_cons_of_mem b hb')]
      simp [Function.comp_def, Nat.add_assoc]

/-- **THE SEARCH**: through the bytes of a text, a short token is found where it is found through
    its characters. -/
theorem find?_encode {token : Text} (h : token.Short) (hne : token ≠ []) (text : Text) :
    find? token.encode text.encode =
      (text.splitFirst? token).map fun found => found.1.byteLength := by
  obtain ⟨d, token, rfl⟩ := List.exists_cons_of_ne_nil hne
  have hd : d.toNat < 0x80 := h d List.mem_cons_self
  induction text with
  | nil =>
      rw [Text.encode_cons, utf8EncodeChar_of_lt hd]
      rfl
  | cons c text ih =>
      obtain ⟨b, tail, hchar, -, htail⟩ := utf8EncodeChar_eq_cons c
      have hsize : tail.length + 1 = c.utf8Size := by
        rw [← String.length_utf8EncodeChar, hchar, List.length_cons]
      have hprefix := isPrefixOf_encode h (c :: text)
      have hskip : ∀ b' ∈ tail, b' ≠ UInt8.ofNat d.toNat := by
        rintro b' hb' rfl
        have hgoes := htail _ hb'
        rw [goesOn_ofNat hd] at hgoes
        exact nomatch hgoes
      rw [Text.encode_cons c, hchar, List.cons_append] at hprefix ⊢
      rw [find?, hprefix, Text.splitFirst?]
      cases hafter : Text.after? (c :: text) (d :: token) with
      | some after => rfl
      | none =>
          rw [Text.encode_cons, utf8EncodeChar_of_lt hd, List.singleton_append] at ih ⊢
          rw [find?_append hskip, ih]
          cases Text.splitFirst? text (d :: token) with
          | none => rfl
          | some found =>
              simp only [Option.isSome_none, Bool.false_eq_true, if_false, Option.map_some,
                Option.some.injEq, Text.byteLength]
              omega

end SqlTemplate
