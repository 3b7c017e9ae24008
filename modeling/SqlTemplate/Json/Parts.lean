import SqlTemplate.Json

/-!
# Parts — what a document holds, to every depth

* `Json.entries` are the items of an array and the values of an object;
* `Json.Within` relates a document to the documents that it is a part of;
* `Json.Distinct` says that no object in a document repeats a name, and `Json.InRange` that its
  integers fit 64 bits with sign;
* `Json.entries_induction` — what holds of a document if it holds of its entries holds of all.
-/

namespace SqlTemplate.Json

/-- The documents directly in a document, in order. -/
def entries : Json → List Json
  | array items => items
  | object members => members.map Prod.snd
  | _ => []

/-- A document is a part of itself and of every document that has it as a part of an entry. -/
inductive Within : Json → Json → Prop where
  | self (json : Json) : Within json json
  | entry {part entry json : Json} (h : Within part entry) (hentry : entry ∈ json.entries) :
      Within part json

/-- Whether a document is an array or an object. -/
def isContainer : Json → Bool
  | array _ | object _ => true
  | _ => false

/-- No object in the document repeats a name. -/
def Distinct (json : Json) : Prop :=
  ∀ members, Within (object members) json → (Fields.keys members).Nodup

/-- No integer in the document is too large for 64 bits with sign. -/
def InRange (json : Json) : Prop :=
  ∀ n, Within (number (.natural n)) json → n.toNat < 0x8000000000000000

theorem Distinct.entry {json entry : Json} (h : json.Distinct) (hentry : entry ∈ json.entries) :
    entry.Distinct :=
  fun members hmembers => h members (.entry hmembers hentry)

theorem InRange.entry {json entry : Json} (h : json.InRange) (hentry : entry ∈ json.entries) :
    entry.InRange :=
  fun n hn => h n (.entry hn hentry)

theorem sizeOf_lt_of_mem_entries {json entry : Json} (h : entry ∈ json.entries) :
    sizeOf entry < sizeOf json := by
  cases json with
  | array items =>
      have hlt : sizeOf entry < sizeOf items := List.sizeOf_lt_of_mem h
      simp only [array.sizeOf_spec]
      omega
  | object members =>
      obtain ⟨⟨name, entry⟩, hmember, rfl⟩ := List.mem_map.mp h
      have hlt : sizeOf (name, entry) < sizeOf members := List.sizeOf_lt_of_mem hmember
      simp only [object.sizeOf_spec, Prod.mk.sizeOf_spec] at hlt ⊢
      omega
  | _ => exact nomatch h

/-- **ENTRIES**: what holds of every document whose entries have it holds of every document. -/
theorem entries_induction {P : Json → Prop}
    (h : ∀ json : Json, (∀ entry ∈ json.entries, P entry) → P json) (json : Json) : P json :=
  h json fun entry hentry =>
    have : sizeOf entry < sizeOf json := sizeOf_lt_of_mem_entries hentry
    entries_induction h entry
termination_by sizeOf json

end SqlTemplate.Json
