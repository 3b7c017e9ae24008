import SqlTemplate.Proofs.Blocks

/-!
# Bytes — the scan of the bytes finds the blocks of the characters

The regions of a template are ranges of bytes, found without decoding them. That is sound because no
byte of a longer character is a brace: all of them are 128 or more (`utf8EncodeChar_cases`). So the
scan of the bytes goes along with the scan of the characters, with positions counted in bytes:

* `Span.inBytes` is a range of characters as a range of bytes;
* `spansFrom_plain` passes over what holds no brace, the bytes of one character in particular;
* **`spansFrom_encode`** — the run, by induction on the characters that are left, with the text
  before them as the measure of where either scan stands;
* **`regions_eq`** — the regions are the blocks of the characters, counted in bytes;
* `length_regions` — so there are as many of them as a shape of the template has blocks.
-/

namespace SqlTemplate

/-- A range of characters of a text as a range of bytes. -/
def Span.inBytes (text : Text) (span : Span) : Span :=
  ⟨Text.byteLength (text.take span.start), Text.byteLength (text.take span.stop)⟩

/-! ## The bytes of one character -/

/-- A character is one byte below 128, or several from 128 on. -/
theorem utf8EncodeChar_cases (c : Char) :
    c.toNat < 0x80 ∧ String.utf8EncodeChar c = [.ofNat c.toNat] ∨
      ∀ b ∈ String.utf8EncodeChar c, 0x80 ≤ b.toNat := by
  unfold String.utf8EncodeChar
  by_cases hshort : c.val.toNat ≤ 127
  · exact Or.inl ⟨Nat.lt_succ_of_le hshort, if_pos hshort⟩
  · refine Or.inr ?_
    -- each byte is a remainder behind a marker of at least 128
    have hbyte {n : Nat} (h : 0x80 ≤ n) (h' : n < 256) : 0x80 ≤ (UInt8.ofNat n).toNat := by
      rw [UInt8.toNat_ofNat_of_lt' h']
      exact h
    rw [if_neg hshort]
    split
    · simp only [List.forall_mem_cons]
      exact ⟨hbyte (by omega) (by omega), hbyte (by omega) (by omega), nofun⟩
    · split
      · simp only [List.forall_mem_cons]
        exact ⟨hbyte (by omega) (by omega), hbyte (by omega) (by omega),
          hbyte (by omega) (by omega), nofun⟩
      · simp only [List.forall_mem_cons]
        exact ⟨hbyte (by omega) (by omega), hbyte (by omega) (by omega),
          hbyte (by omega) (by omega), hbyte (by omega) (by omega), nofun⟩

namespace Brace

theorem ofByte?_eq_none {b : UInt8} (h : 0x80 ≤ b.toNat) : ofByte? b = none := by
  have hne (d : UInt8) (hd : d.toNat < 0x80) : b ≠ d := by
    intro heq
    rw [heq] at h
    omega
  rw [ofByte?, if_neg (hne 0x7b (by decide)), if_neg (hne 0x7d (by decide))]

/-- A brace is one byte, and the same brace. -/
theorem utf8EncodeChar_eq_of_ofChar? {c : Char} {brace : Brace} (h : ofChar? c = some brace) :
    ∃ b, String.utf8EncodeChar c = [b] ∧ ofByte? b = some brace := by
  unfold ofChar? at h
  split at h
  next hc =>
    subst hc
    exact ⟨0x7b, rfl, h⟩
  next =>
    split at h
    next hc =>
      subst hc
      exact ⟨0x7d, rfl, h⟩
    next => exact nomatch h

/-- No byte of another character is a brace. -/
theorem ofByte?_eq_none_of_mem {c : Char} (h : ofChar? c = none) {b : UInt8}
    (hb : b ∈ String.utf8EncodeChar c) : ofByte? b = none := by
  rcases utf8EncodeChar_cases c with ⟨hshort, hone⟩ | hlong
  · rw [hone, List.mem_singleton] at hb
    have hvalue : b.toNat = c.toNat := by
      rw [hb, UInt8.toNat_ofNat_of_lt' (by change c.toNat < 256; omega)]
    have hne (d : Char) (b' : UInt8) (hd : b'.toNat = d.toNat) (hc : c ≠ d) : b ≠ b' := by
      intro heq
      exact hc (Char.toNat_inj.mp (by rw [← hvalue, heq, hd]))
    unfold ofChar? at h
    split at h
    next => exact nomatch h
    next hopening =>
      split at h
      next => exact nomatch h
      next hclosing =>
        rw [ofByte?, if_neg (hne '\x7b' 0x7b rfl hopening), if_neg (hne '\x7d' 0x7d rfl hclosing)]
  · exact ofByte?_eq_none (hlong b hb)

end Brace

namespace Block

/-! ## The scan -/

/-- Where a scan of characters stands, as a place of the scan of bytes. -/
def Place.inBytes (text : Text) : Place → Place
  | .outside => .outside
  | .inside start nested => .inside (Text.byteLength (text.take start)) nested

/-- A scan passes over what holds no brace. -/
theorem spansFrom_plain {α : Type} {brace? : α → Option Brace} {plain : List α}
    (h : ∀ x ∈ plain, brace? x = none) (place : Place) (position : Nat) (rest : List α) :
    spansFrom brace? place position (plain ++ rest) =
      spansFrom brace? place (position + plain.length) rest := by
  induction plain generalizing position with
  | nil => rfl
  | cons x plain ih =>
      have hx : brace? x = none := h x List.mem_cons_self
      have hplain := ih (fun y hy => h y (List.mem_cons_of_mem x hy)) (position + 1)
      have hposition : position + (x :: plain).length = position + 1 + plain.length := by
        rw [List.length_cons]
        omega
      rw [hposition, ← hplain, List.cons_append]
      cases place with
      | outside => simp only [spansFrom, hx]
      | inside start nested => simp only [spansFrom, hx]

/-- **THE SCAN OF THE BYTES**: behind the same text, the scan of the bytes finds what the scan of
    the characters finds, counted in bytes. -/
theorem spansFrom_encode (front text : Text) (place : Place) :
    spansFrom Brace.ofByte? (place.inBytes (front ++ text)) front.byteLength text.encode =
      (spansFrom Brace.ofChar? place front.length text).map (Span.inBytes (front ++ text)) := by
  induction text generalizing front place with
  | nil =>
      cases place with
      | outside => rfl
      | inside start nested => rfl
  | cons c text ih =>
      have hencode : Text.encode (c :: text) = String.utf8EncodeChar c ++ Text.encode text := rfl
      have hwhole : front ++ c :: text = front ++ [c] ++ text := by simp
      have hstep : Text.byteLength (front ++ [c]) =
          Text.byteLength front + (String.utf8EncodeChar c).length := by
        rw [Text.byteLength_append, String.length_utf8EncodeChar]
        rfl
      have hlength : (front ++ [c]).length = front.length + 1 := by simp
      have hnext := ih (front ++ [c])
      rw [hlength, ← hwhole, hstep] at hnext
      cases hbrace : Brace.ofChar? c with
      | none =>
          have hchar : spansFrom Brace.ofChar? place front.length (c :: text) =
              spansFrom Brace.ofChar? place (front.length + 1) text :=
            @spansFrom_plain _ _ [c] (List.forall_mem_singleton.mpr hbrace) place front.length text
          rw [hencode, spansFrom_plain fun b hb => Brace.ofByte?_eq_none_of_mem hbrace hb, hnext,
            hchar]
      | some brace =>
          obtain ⟨b, hb, hbyte⟩ := Brace.utf8EncodeChar_eq_of_ofChar? hbrace
          have hstart : Text.byteLength ((front ++ c :: text).take front.length) =
              Text.byteLength front := by rw [List.take_left]
          have hstop : Text.byteLength ((front ++ c :: text).take (front.length + 1)) =
              Text.byteLength front + 1 := by
            rw [hwhole, ← hlength, List.take_left, hstep, hb]
            rfl
          rw [hb] at hnext hencode
          rw [hencode]
          show spansFrom _ _ _ (b :: Text.encode text) = _
          cases place with
          | outside =>
              cases brace with
              | opening =>
                  simp only [spansFrom, hbrace, hbyte, Place.inBytes]
                  rw [← hnext (.inside front.length 0), Place.inBytes, hstart]
                  rfl
              | closing =>
                  simp only [spansFrom, hbrace, hbyte, Place.inBytes]
                  exact hnext .outside
          | inside start nested =>
              cases brace with
              | opening =>
                  simp only [spansFrom, hbrace, hbyte, Place.inBytes]
                  exact hnext (.inside start (nested + 1))
              | closing =>
                  cases nested with
                  | zero =>
                      -- the block ends behind this byte, which is as long as its character
                      simp only [spansFrom, hbrace, hbyte, Place.inBytes, List.map_cons]
                      rw [← hnext .outside, Span.inBytes, hstop]
                      rfl
                  | succ outer =>
                      simp only [spansFrom, hbrace, hbyte, Place.inBytes]
                      exact hnext (.inside start outer)

/-- **REGIONS**: the regions of a template are its blocks, counted in bytes. -/
theorem regions_eq (template : Text) :
    regions template = (spans Brace.ofChar? template).map (Span.inBytes template) :=
  spansFrom_encode [] template .outside

/-- A template has as many regions as blocks. -/
theorem length_regions {shape : Shape} (h : shape.Valid) :
    (regions shape.text).length = shape.blocks.length := by
  rw [regions_eq, List.length_map]
  exact h.length_spansFrom 0

end Block
end SqlTemplate
