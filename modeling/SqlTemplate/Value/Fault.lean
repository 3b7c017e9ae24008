import SqlTemplate.Rendering

/-!
# Faults of values — which parameters have no text

Whether a parameter can be written shows in the value itself, whatever the template, the escaper and
the other parameters: a float has to be finite, and so has every float directly in a list or map,
where no list, map or skip marker may stand.
-/

namespace SqlTemplate.Value

/-- What is wrong with a value as an entry of a list or map. -/
def entryFault? : Value → Option Fault
  | .float x => if x.isFinite then none else some .nonFinite
  | .list _ => some .nestedList
  | .map _ => some .nestedMap
  | .skip => some .nestedSkip
  | _ => none

/-- What is wrong with a value as a parameter: the fault of its first entry that has one. -/
def fault? : Value → Option Fault
  | .float x => if x.isFinite then none else some .nonFinite
  | .list items => items.findSome? entryFault?
  | .map fields => fields.findSome? fun field => entryFault? field.2
  | _ => none

end SqlTemplate.Value
