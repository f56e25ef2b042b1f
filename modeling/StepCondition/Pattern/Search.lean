import StepCondition.Pattern.Node

/-!
# Where a regular expression matches

Between the `n` characters of a text are `n + 1` positions. A set of positions is
a number whose bit `i` says whether position `i` is a member. A node leads from
positions where a match of it starts to positions where one ends
(`Shape.ends`): a step over a character is a shift by one, and a repetition is
iterated until the set no longer changes. A text matches if some position leads
to one (`Node.matchesIn`).
-/

namespace StepCondition.Pattern

/-- The set of the indices at which a list holds. -/
def bits : List Bool → Nat
  | [] => 0
  | b :: bs => 2 * bits bs + b.toNat

/-- The positions of a text from its start to its end, each with the characters
before and after it. -/
def gaps (before : Option Char) : List Char → List (Option Char × Option Char)
  | [] => [(before, none)]
  | c :: cs => (before, some c) :: gaps (some c) cs

/-- Iterates a step on sets so many times, or until it changes nothing. -/
def iterate (f : Nat → Nat) : Nat → Nat → Nat
  | 0, s => s
  | n + 1, s =>
    let next := f s
    if next = s then s else iterate f n next

/-- The positions in which matches end that start in a set of positions, where
each step has the positions before its characters and each condition the
positions where it holds. No iteration changes a set more often than there are
`positions`. -/
def Shape.ends (positions : Nat) : Shape Nat Nat → Nat → Nat
  | .empty, s => s
  | .step before, s => 2 * (s &&& before)
  | .look holds, s => s &&& holds
  | .seq a b, s => b.ends positions (a.ends positions s)
  | .alt a b, s => a.ends positions s ||| b.ends positions s
  | .rep least most body, s =>
    let start := iterate (fun s => body.ends positions s) least s
    let further := (most.map (· - least)).getD positions
    iterate (fun s => s ||| body.ends positions s) further start

/-- Whether some part of a text matches. -/
def Node.matchesIn (node : Node) (text : List Char) : Bool :=
  let positions := text.length + 1
  let around := gaps none text
  let shape := node.map (fun set => bits (text.map set.mem))
    (fun look => bits (around.map fun (before, after) => look.holds before after))
  shape.ends positions (Nat.pow 2 positions - 1) != 0

end StepCondition.Pattern
