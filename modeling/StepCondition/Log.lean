/-!
# What a run tells its operator

A run notes on the way what it leaves out and whom it calls. Entries stand in
the order in which they were made.
-/

namespace StepCondition

/-- How much detail an operator has to ask for to see an entry. -/
inductive LogLevel where
  | debug
  | trace
  deriving DecidableEq, Repr

/-- One note. -/
structure LogEntry where
  level : LogLevel
  message : String
  deriving DecidableEq, Repr

end StepCondition
