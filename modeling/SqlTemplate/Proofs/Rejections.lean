import SqlTemplate.Proofs.Filling
import SqlTemplate.Value.Fault

/-!
# Rejections — which calls fail, and with what

Whether a parameter can be written shows in its value alone, and a compilation writes a parameter
before it searches for its place. So a call fails exactly if some parameter has a fault of its own,
and it fails with the first such parameter, whether its placeholder occurs or not:

* `error?_mapM` — a row fails with the first error among its items;
* **`Param.error?_text`** — a parameter fails with the fault of its value;
* `rejectionFrom?` finds the first parameter at fault without any template;
* `error?_fill` is the run, by induction on the parameters: a filling fails as that search says;
* `compile_eq_error_iff` is the whole compilation, and **`compile_fails_iff`** says besides that
  nothing else has a part in it: not the template, not the escaper, no parameter further behind.
-/

namespace SqlTemplate

open Rendering

/-! ## Errors of rows -/

/-- The error that something ended with, if it did. -/
def error? {α ε : Type} : Except ε α → Option ε
  | .error fault => some fault
  | .ok _ => none

theorem error?_eq_some_iff {α ε : Type} {result : Except ε α} {fault : ε} :
    error? result = some fault ↔ result = .error fault := by
  cases result with
  | error first =>
      show some first = some fault ↔ Except.error first = .error fault
      rw [Option.some.injEq, Except.error.injEq]
  | ok value => exact iff_of_false nofun nofun

theorem error?_eq_none_iff {α ε : Type} {result : Except ε α} :
    error? result = none ↔ ∃ value, result = .ok value := by
  cases result with
  | error fault => exact iff_of_false nofun nofun
  | ok value => exact iff_of_true rfl ⟨value, rfl⟩

/-- Working on a result makes no error and mends none. -/
theorem error?_map {α β ε : Type} (f : α → β) (result : Except ε α) :
    error? (f <$> result) = error? result := by
  cases result <;> rfl

/-- Going through a list fails with the first error among its items. -/
theorem error?_mapM {α β ε : Type} (f : α → Except ε β) (items : List α) :
    error? (items.mapM f) = items.findSome? fun item => error? (f item) := by
  induction items with
  | nil => rfl
  | cons item items ih =>
      rw [List.mapM_cons, List.findSome?_cons, ← ih]
      cases f item with
      | error fault => rfl
      | ok result => exact error?_map (result :: ·) (items.mapM f)

theorem error?_commaSeparated {α : Type} {write : α → Except Fault Text}
    {fault? : α → Option Fault} (hwrite : ∀ item, error? (write item) = fault? item)
    (items : List α) :
    error? (commaSeparated <$> items.mapM write) = items.findSome? fault? := by
  rw [error?_map, error?_mapM]
  exact congrArg items.findSome? (funext hwrite)

/-! ## Values at fault -/

theorem error?_floatText (x : Binary64) :
    error? (floatText x) = if x.isFinite then none else some .nonFinite := by
  unfold floatText
  split <;> rfl

/-- An entry fails with its own fault, however strings are written. -/
theorem error?_entryText (stringText : Text → Text) (value : Value) :
    error? (entryText stringText value) = value.entryFault? := by
  cases value with
  | float x => exact error?_floatText x
  | _ => rfl

/-- An assignment fails with the fault of the entry assigned. -/
theorem error?_assignmentText (stringText : Text → Text) (field : Text × Value) :
    error? (assignmentText stringText field) = field.2.entryFault? := by
  rw [← error?_entryText stringText field.2]
  exact error?_map _ (entryText stringText field.2)

/-- **FAULTS**: a parameter fails with the fault of its value, whatever its role and the escaper. -/
theorem Param.error?_text {count : Nat} {value : Value} {param : Param}
    (hrole : classify? count value = some param) (escape : Escaper) :
    error? (param.text escape) = value.fault? := by
  cases value with
  | null => cases hrole; rfl
  | bool b => cases hrole; rfl
  | int n => cases hrole; rfl
  | float x => cases hrole; exact error?_floatText x
  | string s =>
      cases hrole
      split <;> rfl
  | list items =>
      cases hrole
      -- values and identifiers differ in how strings are written, and no fault depends on that
      unfold ofItems
      split <;> exact error?_commaSeparated (error?_entryText _) _
  | map fields => cases hrole; exact error?_commaSeparated (error?_assignmentText _) fields
  | skip => exact nomatch hrole

/-- The skip marker is no parameter at fault. -/
theorem Value.fault?_of_isSkip {value : Value} (h : value.isSkip = true) : value.fault? = none := by
  cases value with
  | skip => rfl
  | _ => exact nomatch h

/-! ## The first fault -/

/-- The rejection of the first parameter at fault, if the parameters stand at positions from
    `start` on. -/
def rejectionFrom? (start : Nat) (params : List Value) : Option Rejection :=
  (params.zipIdx start).findSome? fun (value, index) =>
    value.fault?.map fun fault => ⟨index, fault⟩

theorem rejectionFrom?_cons_of_some {value : Value} {fault : Fault} (h : value.fault? = some fault)
    (start : Nat) (params : List Value) :
    rejectionFrom? start (value :: params) = some ⟨start, fault⟩ := by
  simp [rejectionFrom?, h]

theorem rejectionFrom?_cons_of_none {value : Value} (h : value.fault? = none) (start : Nat)
    (params : List Value) :
    rejectionFrom? start (value :: params) = rejectionFrom? (start + 1) params := by
  simp [rejectionFrom?, h]

/-- The first parameter at fault stands behind parameters without a fault. -/
theorem rejectionFrom?_eq_some_iff {start : Nat} {params : List Value} {rejection : Rejection} :
    rejectionFrom? start params = some rejection ↔
      ∃ before value after, params = before ++ value :: after ∧
        rejection.index = start + before.length ∧ value.fault? = some rejection.fault ∧
        ∀ other ∈ before, other.fault? = none := by
  rw [rejectionFrom?, List.findSome?_eq_some_iff]
  constructor
  · rintro ⟨front, numbered, back, hcut, hfault, hfront⟩
    obtain ⟨before, rest, rfl, rfl, hrest⟩ := List.zipIdx_eq_append_iff.mp hcut
    obtain ⟨value, after, rfl, rfl, -⟩ := List.zipIdx_eq_cons_iff.mp hrest.symm
    obtain ⟨fault, hvalue, rfl⟩ := Option.map_eq_some_iff.mp hfault
    refine ⟨before, value, after, rfl, rfl, hvalue, ?_⟩
    intro other hother
    rw [← List.zipIdx_map_fst start before] at hother
    obtain ⟨pair, hpair, rfl⟩ := List.mem_map.mp hother
    exact Option.map_eq_none_iff.mp (hfront pair hpair)
  · rintro ⟨before, value, after, rfl, hindex, hvalue, hbefore⟩
    refine ⟨before.zipIdx start, (value, start + before.length),
      after.zipIdx (start + before.length + 1), ?_, ?_, ?_⟩
    · rw [List.zipIdx_append, List.zipIdx_cons]
    · show (value.fault?.map fun fault => ⟨start + before.length, fault⟩) = some rejection
      rw [hvalue, ← hindex]
      rfl
    · intro pair hpair
      have hother : pair.1 ∈ before := by
        rw [← List.zipIdx_map_fst start before]
        exact List.mem_map_of_mem hpair
      exact Option.map_eq_none_iff.mpr (hbefore pair.1 hother)

/-- No parameter is rejected exactly if none is at fault. -/
theorem rejectionFrom?_eq_none_iff {start : Nat} {params : List Value} :
    rejectionFrom? start params = none ↔ ∀ value ∈ params, value.fault? = none := by
  induction params generalizing start with
  | nil => exact iff_of_true rfl nofun
  | cons value params ih =>
      rw [List.forall_mem_cons]
      cases hvalue : value.fault? with
      | some fault =>
          rw [rejectionFrom?_cons_of_some hvalue]
          exact iff_of_false nofun (fun h => nomatch h.1)
      | none =>
          rw [rejectionFrom?_cons_of_none hvalue, ih]
          exact ⟨fun h => ⟨rfl, h⟩, fun h => h.2⟩

/-! ## The run -/

namespace Compilation

/-- A parameter without a fault is written. -/
theorem filling_of_fault?_eq_none {count : Nat} {value : Value} {param : Param}
    (hrole : Param.classify? count value = some param) (h : value.fault? = none)
    (escape : Escaper) : ∃ pair, filling escape param = .ok pair := by
  rw [← Param.error?_text hrole escape] at h
  obtain ⟨written, hwritten⟩ := error?_eq_none_iff.mp h
  exact ⟨(param.placeholder, written), filling_eq_ok_iff.mpr ⟨hwritten, rfl⟩⟩

/-- A parameter at fault is not written. -/
theorem filling_of_fault?_eq_some {count : Nat} {value : Value} {param : Param} {fault : Fault}
    (hrole : Param.classify? count value = some param) (h : value.fault? = some fault)
    (escape : Escaper) : filling escape param = .error fault := by
  rw [← Param.error?_text hrole escape] at h
  rw [filling, error?_eq_some_iff.mp h]
  rfl

/-- **THE RUN**: filling parameters fails with the first one at fault, wherever the placeholders of
    those before it were found or missed. -/
theorem error?_fill (escape : Escaper) (sql : Text) (count start : Nat) (params : List Value) :
    error? (fill escape sql (roles count start params)).result = rejectionFrom? start params := by
  induction params generalizing sql start with
  | nil => rfl
  | cons value params ih =>
      cases hrole : Param.classify? count value with
      | none =>
          have hnone : value.fault? = none :=
            Value.fault?_of_isSkip (Param.classify?_eq_none_iff.mp hrole)
          rw [roles_cons_of_none hrole, rejectionFrom?_cons_of_none hnone]
          exact ih sql (start + 1)
      | some param =>
          rw [roles_cons_of_some hrole]
          cases hvalue : value.fault? with
          | some fault =>
              rw [fill_cons_error (filling_of_fault?_eq_some hrole hvalue escape),
                rejectionFrom?_cons_of_some hvalue]
              rfl
          | none =>
              obtain ⟨pair, hpair⟩ := filling_of_fault?_eq_none hrole hvalue escape
              rw [fill_cons_result hpair, rejectionFrom?_cons_of_none hvalue]
              exact ih (put sql pair) (start + 1)

end Compilation

/-- A compilation fails with the rejection of the first parameter at fault. -/
theorem error?_compile (escape : Escaper) (template : Text) (params : List Value) :
    error? (compile escape template params) = rejectionFrom? 0 params := by
  cases params with
  | nil => rfl
  | cons value params =>
      rw [compile_eq_fill (List.cons_ne_nil value params), Compilation.arguments_eq_roles]
      exact Compilation.error?_fill _ _ _ _ _

/-- A call succeeds exactly if no parameter is at fault. -/
theorem compile_succeeds_iff {escape : Escaper} {template : Text} {params : List Value} :
    (∃ sql, compile escape template params = .ok sql) ↔ ∀ value ∈ params, value.fault? = none := by
  rw [← error?_eq_none_iff, error?_compile, rejectionFrom?_eq_none_iff]

/-- A call is rejected exactly for the first of its parameters that is at fault. -/
theorem compile_eq_error_iff {escape : Escaper} {template : Text} {params : List Value}
    {rejection : Rejection} :
    compile escape template params = .error rejection ↔
      ∃ before value after, params = before ++ value :: after ∧
        rejection.index = before.length ∧ value.fault? = some rejection.fault ∧
        ∀ other ∈ before, other.fault? = none := by
  rw [← error?_eq_some_iff, error?_compile, rejectionFrom?_eq_some_iff]
  simp only [Nat.zero_add]

/-- The fault is that of the first entry that has one, and of the first parameter with such an
    entry; the integer before it finds no placeholder. -/
example : compile id "?a".toList
    [.int 0, .list [.null, .skip, .list []], .float ⟨0x7ff0000000000000⟩] =
      .error ⟨1, .nestedSkip⟩ := by decide

end SqlTemplate
