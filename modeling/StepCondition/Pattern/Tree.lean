import StepCondition.Unicode.Ranges

/-!
# Regular expressions as written

The tree of a regular expression, close to its text: flags stand where they are
set, classes hold their items, and nothing is resolved yet. `Tree.depth` is how
deep the parts of a tree are nested.
-/

namespace StepCondition.Pattern

/-- Switches that change how the rest of a group is read or matched. -/
inductive Flag where
  | caseless
  | multiLine
  | dotAll
  | swapGreed
  | unicode
  | carriageReturn
  | spaced
  deriving DecidableEq, Repr

/-- A flag turned on or off. -/
structure FlagChange where
  flag : Flag
  on : Bool
  deriving DecidableEq, Repr

/-- Conditions on a position, as written. -/
inductive Assertion where
  | lineStart
  | lineEnd
  | textStart
  | textEnd
  | wordBoundary
  | notWordBoundary
  | wordStart
  | wordEnd
  | wordStartHalf
  | wordEndHalf
  deriving DecidableEq, Repr

/-- The classes that have a letter of their own. -/
inductive LetterClass where
  | digit
  | space
  | word
  deriving DecidableEq, Repr

/-- The classes of ASCII that have a name between colons. -/
inductive AsciiClass where
  | alnum
  | alpha
  | ascii
  | blank
  | cntrl
  | digit
  | graph
  | lower
  | print
  | punct
  | space
  | upper
  | word
  | xdigit
  deriving DecidableEq, Repr

/-- A property of characters: one that a name alone asks for, or a value of a
property. -/
inductive PropertyQuery where
  | name (name : String)
  | value (property value : String)
  deriving DecidableEq, Repr

/-- A character that stands for itself. A character written by two hexadecimal
digits may mean a byte. -/
structure Literal where
  char : Char
  byte : Bool := false
  deriving DecidableEq, Repr

/-- The parts that have no parts. -/
inductive Atom where
  | literal (literal : Literal)
  | dot
  | assertion (assertion : Assertion)
  | property (query : PropertyQuery) (negated : Bool)
  | letter (kind : LetterClass) (negated : Bool)
  deriving DecidableEq, Repr

/-- Operators on classes. -/
inductive ClassOp where
  | intersection
  | difference
  | symmetricDifference
  deriving DecidableEq, Repr

/-- The inside of a class in brackets. -/
inductive ClassTree where
  | atom (atom : Atom)
  | range (first last : Literal)
  | ascii (kind : AsciiClass) (negated : Bool)
  | bracketed (negated : Bool) (inside : ClassTree)
  | union (items : List ClassTree)
  | binary (op : ClassOp) (left right : ClassTree)

/-- A regular expression as written. -/
inductive Tree where
  | atom (atom : Atom)
  | flags (changes : List FlagChange)
  | bracketed (negated : Bool) (inside : ClassTree)
  | repetition (least : Nat) (most : Option Nat) (body : Tree)
  /-- A group that captures, under a name or not. -/
  | capture (name : Option String) (body : Tree)
  /-- A group that sets flags for its body and captures nothing. -/
  | group (changes : List FlagChange) (body : Tree)
  | concat (parts : List Tree)
  | alternation (branches : List Tree)

namespace ClassTree

/-- Several items in a row: their union, or the item if there is but one. -/
def ofItems : List ClassTree → ClassTree
  | [item] => item
  | items => union items

mutual

/-- How deep the parts of a class are nested. -/
def depth : ClassTree → Nat
  | atom _ | range .. | ascii .. => 0
  | bracketed _ inside => inside.depth + 1
  | union [] => 0
  | union items => depthAll items + 1
  | binary _ left right => max left.depth right.depth + 1

/-- The greatest depth in a list. -/
def depthAll : List ClassTree → Nat
  | [] => 0
  | item :: items => max item.depth (depthAll items)

end

end ClassTree

namespace Tree

/-- Several parts in a row, or the part if there is but one. -/
def ofParts : List Tree → Tree
  | [part] => part
  | parts => concat parts

/-- Several branches, or the branch if there is but one. -/
def ofBranches : List Tree → Tree
  | [branch] => branch
  | branches => alternation branches

mutual

/-- How deep the parts of a tree are nested. -/
def depth : Tree → Nat
  | atom _ | flags _ => 0
  | bracketed _ inside => inside.depth + 1
  | repetition _ _ body | capture _ body | group _ body => body.depth + 1
  | concat [] => 0
  | concat parts => depthAll parts + 1
  | alternation branches => depthAll branches + 1

/-- The greatest depth in a list. -/
def depthAll : List Tree → Nat
  | [] => 0
  | tree :: trees => max tree.depth (depthAll trees)

end

mutual

/-- The names of the groups in a tree, from left to right. -/
def groupNames : Tree → List String
  | atom _ | flags _ | bracketed .. => []
  | repetition _ _ body | group _ body => body.groupNames
  | capture name body => name.toList ++ body.groupNames
  | concat parts => groupNamesAll parts
  | alternation branches => groupNamesAll branches

/-- The names of the groups in a list of trees. -/
def groupNamesAll : List Tree → List String
  | [] => []
  | tree :: trees => tree.groupNames ++ groupNamesAll trees

end

end Tree

end StepCondition.Pattern
