import StepCondition.Unicode.Ranges

/-!
# Properties and their names

A property is found by any of its names (`Named.find?`). The tables of all
properties that a pattern can ask for are long, so each stays in writing until it
is asked for.
-/

namespace StepCondition.Pattern

open Unicode

/-- A property with the names that ask for it, each in loose form: lower case,
without blanks, underscores and dashes. -/
structure Named where
  names : List String
  table : String

/-- The members of the first property that has the name. -/
def Named.find? (entries : List Named) (name : String) : Option Ranges :=
  (entries.find? (·.names.contains name)).map fun entry => .ofTable entry.table

end StepCondition.Pattern
