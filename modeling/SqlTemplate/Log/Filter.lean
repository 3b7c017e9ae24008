import SqlTemplate.Log.Directive

/-!
# Log filters — which records a log shows

A filter is a list of directives separated by commas. A record is shown up to the level of the
directive about it that says most; of two that say the same the later counts. A filter with a part
that is no directive is none.

* `Filter.parse?` reads a filter, and `Filter.standard` applies where there is none that can be
  read;
* `Filter.shows` decides for a record.
-/

namespace SqlTemplate.Log

/-- Which records a log shows. -/
abbrev Filter := List Directive

namespace Filter

/-- The filter where none is given: information and worse, of the program's own parts. -/
def standard : Filter := [⟨some "sqltpl".toList, none, none, .info⟩]

/-- The filter that a text is. -/
def parse? (text : Text) : Option Filter :=
  ((Text.parts ',' text).filter (! ·.isEmpty)).mapM Directive.parse?

/-- The filter of a setting that may be missing or wrong. -/
def ofSetting (setting? : Option Text) : Filter :=
  (setting?.bind parse?).getD standard

/-- The directive that counts for a record. -/
def directive? (filter : Filter) (record : Record) : Option Directive :=
  (filter.filter (·.appliesTo record)).foldl (fun best? directive =>
    match best? with
    | some best => some (if directive.isVaguerThan best then best else directive)
    | none => some directive) none

/-- Whether a record is shown. -/
def shows (filter : Filter) (record : Record) : Bool :=
  match filter.directive? record with
  | some directive => record.level.rank ≤ directive.level.rank
  | none => false

end Filter
end SqlTemplate.Log
