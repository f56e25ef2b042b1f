import StepCondition.Pattern.Search

/-!
# Regular expressions

A pattern is the text of a regular expression together with the node that was made of
it. The text alone does not tell the node: a host may make a pattern under any flags
(`Pattern.build`). Conditions make theirs under none (`Pattern.compile`).
-/

namespace StepCondition

/-- A regular expression ready to be searched for. -/
structure Pattern where
  source : String
  node : Pattern.Node

namespace Pattern

/-- The pattern that a text spells under some flags, or what is wrong with it. -/
def build (flags : Flags) (source : String) : Except Fault Pattern := do
  return ⟨source, ← (← Tree.read source).node flags⟩

/-- The pattern that a text spells by itself, or what is wrong with it. -/
def compile (source : String) : Except Fault Pattern := build {} source

/-- Whether some part of a text matches. -/
def isMatch (p : Pattern) (text : String) : Bool := p.node.matchesIn text.toList

end Pattern

end StepCondition
