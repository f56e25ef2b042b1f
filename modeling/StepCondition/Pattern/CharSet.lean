import StepCondition.Pattern.Folding
import StepCondition.Pattern.Property.Binary
import StepCondition.Pattern.Property.GeneralCategory
import StepCondition.Unicode.Blank

/-!
# Sets of characters

A set is kept as the expression that built it, and asked for one character at a
time (`CharSet.mem`).
-/

namespace StepCondition.Pattern

open Unicode

/-- A set of characters. -/
inductive CharSet where
  | empty
  | range (first last : Char)
  | table (ranges : Ranges)
  | union (a b : CharSet)
  | inter (a b : CharSet)
  | diff (a b : CharSet)
  | symmDiff (a b : CharSet)
  | compl (a : CharSet)
  /-- The characters equal but for case to a member. -/
  | caseless (a : CharSet)
  /-- As `caseless`, with no case but that of ASCII. -/
  | caselessAscii (a : CharSet)

namespace CharSet

/-- A letter of ASCII in both cases, any other character alone. -/
def asciiVariants (c : Char) : List Char := [c.toLower, c.toUpper, c]

/-- Whether a character is a member. -/
def mem : CharSet → Char → Bool
  | empty, _ => false
  | range first last, c => decide (first ≤ c ∧ c ≤ last)
  | table ranges, c => ranges.contains c
  | union a b, c => a.mem c || b.mem c
  | inter a b, c => a.mem c && b.mem c
  | diff a b, c => a.mem c && !b.mem c
  | symmDiff a b, c => a.mem c != b.mem c
  | compl a, c => !a.mem c
  | caseless a, c => (caseVariants c).any fun d => a.mem d
  | caselessAscii a, c => (asciiVariants c).any fun d => a.mem d

/-- The set of one character. -/
def single (c : Char) : CharSet := range c c

/-- The set of all members of some sets. -/
def unionAll (sets : List CharSet) : CharSet := sets.foldr union empty

/-- About how many bytes the states for a set take. A range of ASCII is an entry
in one state, any other range has states of its own, and a complement reaches far
beyond ASCII. Each range that is written out counts `variants` times. -/
def cost (variants : Nat) : CharSet → Nat
  | empty => 0
  | range first last =>
    if first = last then variants * 32 * first.utf8Size
    else variants * (if last ≤ '\x7f' then 8 else 64)
  | table r => 64 * r.length
  | union a b | inter a b | diff a b | symmDiff a b => a.cost variants + b.cost variants
  | compl a => a.cost variants + 800
  | caseless a | caselessAscii a => a.cost 2

/-! ## Classes of ASCII -/

/-- Decimal digits of ASCII. -/
def asciiDigit : CharSet := range '0' '9'

/-- Blanks of ASCII. -/
def asciiSpace : CharSet := union (range '\t' '\r') (single ' ')

/-- Characters of a word in ASCII. -/
def asciiWord : CharSet :=
  unionAll [range '0' '9', range 'A' 'Z', range 'a' 'z', single '_']

/-! ## Classes of Unicode -/

/-- Decimal digits. -/
def digit : CharSet := table (.ofTable GeneralCategory.decimalNumber)

/-- Blanks. -/
def space : CharSet := table blank

/-- Characters of a word: letters, marks, digits, connecting punctuation such as
the underscore, and the two joiners. -/
def word : CharSet :=
  let tables := [alphabeticTable, GeneralCategory.nonspacingMark, GeneralCategory.spacingMark,
    GeneralCategory.enclosingMark, GeneralCategory.decimalNumber,
    GeneralCategory.connectorPunctuation]
  table (.unionAll ([(0x200C, 0x200D)] :: tables.map .ofTable))

end CharSet

end StepCondition.Pattern
