import StepCondition.Text.Hex

/-!
# Sets of characters as tables of ranges

A property of characters is written as a text of hexadecimal ranges in
increasing order, such as `41-5A 61-7A AA` (`Ranges.ofTable`), and asked for
one character at a time (`Ranges.contains`). A map of characters is a text of
rows of four numbers, each one an arithmetic progression and the start of its
image (`Progression.ofTable`).
-/

namespace StepCondition.Unicode

open Text

/-- Inclusive ranges of code points, in increasing order. -/
abbrev Ranges := List (Nat × Nat)

/-- Whether a character lies in one of the ranges. The first range that does
not end before the character decides, because the ranges increase. -/
def Ranges.contains : Ranges → Char → Bool
  | [], _ => false
  | (first, last) :: rest, c =>
    if c.toNat ≤ last then decide (first ≤ c.toNat) else Ranges.contains rest c

/-- The characters that separate the entries of a table. -/
def isTableBlank (c : Char) : Bool := c = ' ' || c = '\n'

/-- Reads the rest of a table of ranges: `first` is what stood before a dash,
`value` the number being read. -/
def Ranges.read (first value : Option Nat) : List Char → Ranges
  | [] => entry
  | c :: cs =>
    if c = '-' then Ranges.read value none cs
    else if isTableBlank c then entry ++ Ranges.read none none cs
    else Ranges.read first (some (value.getD 0 * 16 + (hexDigit? c).getD 0)) cs
where
  /-- The range that ends at the number being read. -/
  entry : Ranges := (value.map fun last => (first.getD last, last)).toList

/-- The ranges that a table lists. -/
def Ranges.ofTable (text : String) : Ranges := Ranges.read none none text.toList

/-- Joins ranges that overlap or touch, in a list ordered by their starts. -/
def Ranges.joined : Ranges → Ranges
  | (first, last) :: (first', last') :: rest =>
    if first' ≤ last + 1 then Ranges.joined ((first, max last last') :: rest)
    else (first, last) :: Ranges.joined ((first', last') :: rest)
  | short => short
termination_by ranges => ranges.length

/-- The ranges of all members of some sets. -/
def Ranges.unionAll (sets : List Ranges) : Ranges :=
  Ranges.joined (sets.flatten.mergeSort fun a b => a.1 ≤ b.1)

/-- The characters `first`, `first + step`, …, `last`, which a map sends to
`image`, `image + step`, …. -/
structure Progression where
  first : Nat
  last : Nat
  step : Nat
  image : Nat
  deriving DecidableEq, Repr

/-- Groups numbers by four into progressions. -/
def Progression.ofNumbers : List Nat → List Progression
  | first :: last :: step :: image :: rest => ⟨first, last, step, image⟩ :: ofNumbers rest
  | _ => []

/-- The progressions that a table lists, four numbers each. -/
def Progression.ofTable (text : String) : List Progression :=
  ofNumbers ((Ranges.ofTable text).map Prod.fst)

/-- The image of a code point under a progression that holds it. -/
def Progression.valueAt? (p : Progression) (n : Nat) : Option Nat :=
  if p.first ≤ n ∧ n ≤ p.last ∧ (n - p.first) % p.step = 0 then some (p.image + (n - p.first))
  else none

/-- The code point that a progression sends to `n`. -/
def Progression.preimage? (p : Progression) (n : Nat) : Option Nat :=
  if p.image ≤ n ∧ (n - p.image) % p.step = 0 ∧ p.first + (n - p.image) ≤ p.last then
    some (p.first + (n - p.image))
  else none

end StepCondition.Unicode
