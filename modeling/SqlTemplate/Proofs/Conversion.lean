import SqlTemplate.Json.Parts
import SqlTemplate.Proofs.Rows
import SqlTemplate.Value.Mirror
import SqlTemplate.Value.OfJson

/-!
# Conversion — every document has a value that mirrors it

A conversion could fail only at a number that is too large for an integer and not finite as a float.
No natural number of 64 bits is, so every document whose objects name their members once has a
value, and that value mirrors it.

* `Binary64.isFinite_ofNat` — natural numbers of 64 bits are finite floats;
* **`Value.exists_ofJson`** — a document converts to a value that mirrors it, by induction over
  its entries;
* `Value.Mirrors.part` — each part of the value mirrors a part of the document, so that no skip
  marker is among them;
* **`Value.Mirrors.injective`** — where integers fit 64 bits with sign, a value mirrors a single
  document.
-/

namespace SqlTemplate

/-! ## Floats -/

namespace Binary64

theorem isFinite_ofMagnitude {significand : Nat} {unit : Int}
    (h : (unit + 1074).toNat <<< 52 + significand < 0x7ff0000000000000) :
    (ofMagnitude significand unit).isFinite = true := by
  have hword : (unit + 1074).toNat <<< 52 + significand < UInt64.size := by
    change _ < 2 ^ 64
    omega
  rw [ofMagnitude]
  simp only [if_pos h]
  rw [isFinite, field, word, UInt64.toNat_ofNat_of_lt' hword, Nat.shiftRight_eq_div_pow,
    bne_iff_ne]
  omega

theorem roundedQuotient_le (num den : Nat) : roundedQuotient num den ≤ num / den + 1 := by
  unfold roundedQuotient
  simp only
  split <;> omega

theorem floorLog2_one {n : Nat} (hn : n ≠ 0) : floorLog2 n 1 = n.log2 := by
  have hexponent : (n.log2 : Int) - (Nat.log2 1 : Int) = n.log2 := by
    rw [show Nat.log2 1 = 0 from rfl]
    omega
  have hnegative : (-(n.log2 : Int)).toNat = 0 := by omega
  have hle : 1 <<< n.log2 ≤ n <<< 0 := by
    rw [Nat.one_shiftLeft]
    exact Nat.log2_self_le hn
  rw [floorLog2]
  simp only [hexponent, hnegative, Int.toNat_natCast, if_pos hle]

/-- Counted in the unit of the last of its 53 leading places, a number has no more than those. -/
theorem quotient_lt (n : Nat) :
    n <<< (-((n.log2 : Int) - 52)).toNat / 1 <<< ((n.log2 : Int) - 52).toNat < 1 <<< 53 := by
  have hlt : n < 2 ^ (n.log2 + 1) := Nat.lt_log2_self
  rw [Nat.one_shiftLeft, Nat.one_shiftLeft, Nat.shiftLeft_eq,
    Nat.div_lt_iff_lt_mul (Nat.two_pow_pos _)]
  by_cases hlarge : 52 ≤ n.log2
  · have hup : (-((n.log2 : Int) - 52)).toNat = 0 := by omega
    have hdown : ((n.log2 : Int) - 52).toNat = n.log2 - 52 := by omega
    rw [hup, hdown, ← Nat.pow_add, Nat.pow_zero, Nat.mul_one]
    rwa [show 53 + (n.log2 - 52) = n.log2 + 1 by omega]
  · have hup : (-((n.log2 : Int) - 52)).toNat = 52 - n.log2 := by omega
    have hdown : ((n.log2 : Int) - 52).toNat = 0 := by omega
    rw [hup, hdown, Nat.pow_zero, Nat.mul_one]
    calc n * 2 ^ (52 - n.log2)
        < 2 ^ (n.log2 + 1) * 2 ^ (52 - n.log2) :=
          Nat.mul_lt_mul_of_pos_right hlt (Nat.two_pow_pos _)
      _ = 2 ^ 53 := by rw [← Nat.pow_add, show n.log2 + 1 + (52 - n.log2) = 53 by omega]

/-- A natural number of 64 bits is finite in floating point. -/
theorem isFinite_ofNat {n : Nat} (h : n < UInt64.size) : (ofNat n).isFinite = true := by
  rw [ofNat, ofRatio]
  split
  · rfl
  next hn =>
    have hlog : n.log2 < 64 := (Nat.log2_lt hn).mpr h
    have hunit : max ((n.log2 : Int) - 52) (-1074) = n.log2 - 52 := by omega
    simp only [floorLog2_one hn, hunit]
    -- rounding may carry into one place more
    have hrounded := roundedQuotient_le (n <<< (-((n.log2 : Int) - 52)).toNat)
      (1 <<< ((n.log2 : Int) - 52).toNat)
    have hquotient := quotient_lt n
    refine isFinite_ofMagnitude ?_
    rw [Nat.shiftLeft_eq]
    omega

end Binary64

namespace Value

/-! ## Every document has a value -/

theorem exists_ofNumber (n : Json.Number) :
    ∃ value, ofNumber n = .ok value ∧ Mirrors (.number n) value := by
  cases n with
  | natural n =>
      by_cases hsmall : n < 0x8000000000000000
      · refine ⟨.int (.ofNat n.toNat), if_pos hsmall, .natural ?_⟩
        exact Int64.toInt_ofNat_of_lt (UInt64.lt_iff_toNat_lt.mp hsmall)
      · have hfinite : (Binary64.ofNat n.toNat).isFinite = true :=
          Binary64.isFinite_ofNat n.toNat_lt
        have hlarge : 0x8000000000000000 ≤ n.toNat :=
          Nat.le_of_not_lt fun hlt => hsmall (UInt64.lt_iff_toNat_lt.mpr hlt)
        refine ⟨.float (.ofNat n.toNat), ?_, .beyond hlarge hfinite⟩
        rw [ofNumber, if_neg hsmall]
        exact if_pos hfinite
  | negative n below => exact ⟨.int n, rfl, .negative n below⟩
  | real x finite => exact ⟨.float x, rfl, .real x finite⟩

/-- **CONVERSION**: a document whose objects repeat no name has a value, which mirrors it. -/
theorem exists_ofJson {json : Json} (h : json.Distinct) :
    ∃ value, ofJson json = .ok value ∧ Mirrors json value := by
  induction json using Json.entries_induction with
  | h json ih =>
    cases json with
    | null => exact ⟨.null, by rw [ofJson], .null⟩
    | bool b => exact ⟨.bool b, by rw [ofJson], .bool b⟩
    | number n =>
        rw [ofJson]
        exact exists_ofNumber n
    | string s => exact ⟨.string s, by rw [ofJson], .string s⟩
    | array items =>
        have hitem : ∀ item ∈ items, ∃ value, ofJson item = .ok value ∧ Mirrors item value :=
          fun item hitem => ih item hitem (h.entry hitem)
        obtain ⟨values, hvalues, hmirrors⟩ := exists_mapM_eq_ok hitem
        refine ⟨.list values, ?_, .array hmirrors⟩
        rw [ofJson, ofItems_eq_mapM, hvalues]
        rfl
    | object members =>
        have hmember : ∀ member ∈ members, ∃ field : Text × Value,
            (member.1, ·) <$> ofJson member.2 = .ok field ∧
              member.1 = field.1 ∧ Mirrors member.2 field.2 := by
          intro member hmember
          have hentry : member.2 ∈ (Json.object members).entries := List.mem_map_of_mem hmember
          obtain ⟨value, hvalue, hmirrors⟩ := ih member.2 hentry (h.entry hentry)
          exact ⟨(member.1, value), by rw [hvalue]; rfl, rfl, hmirrors⟩
        obtain ⟨fields, hfields, hall⟩ := exists_mapM_eq_ok hmember
        have hkeys : Fields.keys members = Fields.keys fields := by
          rw [Fields.keys, Fields.keys, ← List.forall₂_eq_eq_eq, List.forall₂_map_left_iff,
            List.forall₂_map_right_iff]
          exact hall.imp fun _ _ hfield => hfield.1
        refine ⟨.map fields, ?_, .object hkeys ?_⟩
        · -- names that are distinct already are not merged
          have hnodup : (Fields.keys fields).Nodup := hkeys ▸ h members (.self _)
          rw [ofJson, ofMembers_eq_mapM, hfields]
          show Except.ok (ofPairs fields) = _
          rw [ofPairs, Fields.ofPairs_eq_self hnodup]
        · rw [List.forall₂_map_left_iff, List.forall₂_map_right_iff]
          exact hall.imp fun _ _ hfield => hfield.2

namespace Mirrors

/-! ## Parts -/

theorem ne_skip {json : Json} {value : Value} (h : Mirrors json value) : value ≠ .skip := by
  rintro rfl
  exact nomatch h

theorem entry {json : Json} {value entry : Value} (h : Mirrors json value)
    (hentry : entry ∈ value.entries) : ∃ part ∈ json.entries, Mirrors part entry := by
  cases h with
  | array h => exact exists_of_mem_forall₂ h hentry
  | object _ h => exact exists_of_mem_forall₂ h hentry
  | _ => exact nomatch hentry

/-- A part of the value mirrors a part of the document. -/
theorem part {json : Json} {value part : Value} (h : Mirrors json value)
    (hpart : Value.Within part value) :
    ∃ source, Json.Within source json ∧ Mirrors source part := by
  induction hpart generalizing json with
  | self => exact ⟨json, .self json, h⟩
  | entry _ hentry ih =>
      obtain ⟨inner, hinner, hmirrors⟩ := h.entry hentry
      obtain ⟨source, hsource, hpart⟩ := ih hmirrors
      exact ⟨source, .entry hsource hinner, hpart⟩

theorem not_within_skip {json : Json} {value : Value} (h : Mirrors json value) :
    ¬ Value.Within .skip value := by
  intro hskip
  obtain ⟨source, -, hmirrors⟩ := h.part hskip
  exact hmirrors.ne_skip rfl

/-! ## One document for each value -/

/-- **ONE DOCUMENT**: documents without integers beyond 64 bits with sign that have the same value
    are the same. -/
theorem injective {a b : Json} {value : Value} (ha : a.InRange) (hb : b.InRange)
    (hav : Mirrors a value) (hbv : Mirrors b value) : a = b := by
  induction a using Json.entries_induction generalizing b value with
  | h a ih =>
    have hentries (b : Json) (hb : b.InRange) (values : List Value)
        (h : List.Forall₂ Mirrors a.entries values) (h' : List.Forall₂ Mirrors b.entries values) :
        a.entries = b.entries :=
      eq_of_forall₂ (R := Mirrors)
        (fun x hx y hy _ => ih x hx (ha.entry hx) (hb.entry hy)) h h'
    cases hav with
    | null =>
        cases hbv
        rfl
    | bool b =>
        cases hbv
        rfl
    | @natural n i h =>
        cases hbv with
        | @natural m _ h' =>
            have hnat : n.toNat = m.toNat := Int.ofNat.inj (h.symm.trans h')
            rw [UInt64.toNat_inj.mp hnat]
        | negative _ below =>
            have hneg : i.toInt < 0 := Int64.lt_iff_toInt_lt.mp below
            omega
    | @beyond n h _ => exact absurd (ha n (.self _)) (Nat.not_lt.mpr h)
    | negative n below =>
        cases hbv with
        | @natural m _ h' =>
            have hneg : n.toInt < 0 := Int64.lt_iff_toInt_lt.mp below
            omega
        | negative => rfl
    | real x finite =>
        cases hbv with
        | @beyond m h' _ => exact absurd (hb m (.self _)) (Nat.not_lt.mpr h')
        | real => rfl
    | string s =>
        cases hbv
        rfl
    | @array items values h =>
        cases hbv with
        | @array items' _ h' =>
            have hitems : items = items' :=
              hentries (.array items') hb values h h'
            rw [hitems]
    | @object members fields hkeys h =>
        cases hbv with
        | @object members' _ hkeys' h' =>
            have hvalues : members.map Prod.snd = members'.map Prod.snd :=
              hentries (.object members') hb (fields.map Prod.snd) h h'
            have hnames : members.map Prod.fst = members'.map Prod.fst := hkeys.trans hkeys'.symm
            rw [← List.zip_unzip members, ← List.zip_unzip members', List.unzip_eq_map,
              List.unzip_eq_map, hnames, hvalues]

end Mirrors

theorem ofJson_injective {a b : Json} (ha : a.Distinct) (hb : b.Distinct) (hsmall : a.InRange)
    (hsmall' : b.InRange) (h : ofJson a = ofJson b) : a = b := by
  obtain ⟨value, hvalue, hav⟩ := exists_ofJson ha
  obtain ⟨value', hvalue', hbv⟩ := exists_ofJson hb
  obtain rfl : value = value' := Except.ok.inj (hvalue.symm.trans (h.trans hvalue'))
  exact hav.injective hsmall hsmall' hbv

end Value
end SqlTemplate
