import StepCondition.Unicode.Ranges

/-!
# Blanks

The characters of the property White_Space, and a text without those at its
ends (`trim`).
-/

namespace StepCondition.Unicode

/-- The property White_Space. -/
def blank : Ranges := [(0x9, 0xD), (0x20, 0x20), (0x85, 0x85), (0xA0, 0xA0), (0x1680, 0x1680),
  (0x2000, 0x200A), (0x2028, 0x2029), (0x202F, 0x202F), (0x205F, 0x205F), (0x3000, 0x3000)]

/-- Whether a character is blank. -/
def isBlank (c : Char) : Bool := blank.contains c

/-- A text without the blanks at its ends. -/
def trim (cs : List Char) : List Char :=
  ((cs.dropWhile isBlank).reverse.dropWhile isBlank).reverse

end StepCondition.Unicode
