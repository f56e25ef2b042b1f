import StepCondition.Pattern.Property
import StepCondition.Pattern.Reader

/-!
# What a regular expression means

The parts of a regular expression with all flags resolved: a node steps over a
character of a set, holds at a position, or combines other nodes. `Tree.node`
resolves a tree; it refuses what could match part of a character, which is what
a class without Unicode would do that holds more than ASCII.
-/

namespace StepCondition.Pattern

open Unicode

/-- How lines end. -/
inductive LineEnd where
  | char (c : Char)
  /-- With a carriage return, a line feed, or the one before the other. -/
  | crlf

/-- The characters that lines end with. -/
def LineEnd.set : LineEnd → CharSet
  | char c => .single c
  | crlf => .union (.single '\n') (.single '\r')

/-- Conditions on a position. -/
inductive Look where
  | textStart
  | textEnd
  | lineStart (ends : LineEnd)
  | lineEnd (ends : LineEnd)
  /-- A condition on whether a word stands before and after the position. -/
  | word (unicode : Bool) (holds : Bool → Bool → Bool)

/-- Whether a condition holds between two characters, which are absent at the
ends of the text. No line starts or ends between a carriage return and the line feed
after it, where these end lines. -/
def Look.holds (look : Look) (before after : Option Char) : Bool :=
  match look with
  | textStart => before.isNone
  | textEnd => after.isNone
  | lineStart (.char c) => before.isNone || before = some c
  | lineStart .crlf =>
    before.isNone || before = some '\n' || (before = some '\r' && after ≠ some '\n')
  | lineEnd (.char c) => after.isNone || after = some c
  | lineEnd .crlf =>
    after.isNone || after = some '\r' || (after = some '\n' && before ≠ some '\r')
  | word unicode test =>
    let inWord (c : Option Char) : Bool :=
      c.any fun c => (if unicode then CharSet.word else CharSet.asciiWord).mem c
    test (inWord before) (inWord after)

/-- A regular expression over characters from `α` and positions from `β`. -/
inductive Shape (α β : Type) where
  | empty
  | step (set : α)
  | look (condition : β)
  | seq (a b : Shape α β)
  | alt (a b : Shape α β)
  | rep (least : Nat) (most : Option Nat) (body : Shape α β)

/-- A regular expression with its flags resolved. -/
abbrev Node := Shape CharSet Look

/-- Replaces the sets and conditions of a shape. -/
def Shape.map {α β γ δ : Type} (f : α → γ) (g : β → δ) : Shape α β → Shape γ δ
  | empty => .empty
  | step set => .step (f set)
  | look condition => .look (g condition)
  | seq a b => .seq (a.map f g) (b.map f g)
  | alt a b => .alt (a.map f g) (b.map f g)
  | rep least most body => .rep least most (body.map f g)

/-! ## Flags -/

/-- The flags that change what a part matches. A text can change all but the line
terminator. -/
structure Flags where
  caseless : Bool := false
  multiLine : Bool := false
  dotAll : Bool := false
  unicode : Bool := true
  carriageReturn : Bool := false
  lineTerminator : Char := '\n'

/-- The flags after a change. Which end of a repetition is tried first, and where
blanks may stand, make no difference to what matches. -/
def Flags.apply (flags : Flags) (change : FlagChange) : Flags :=
  match change.flag with
  | .caseless => { flags with caseless := change.on }
  | .multiLine => { flags with multiLine := change.on }
  | .dotAll => { flags with dotAll := change.on }
  | .unicode => { flags with unicode := change.on }
  | .carriageReturn => { flags with carriageReturn := change.on }
  | .swapGreed | .spaced => flags

/-! ## Sets -/

/-- The members of a class of ASCII. -/
def AsciiClass.set : AsciiClass → CharSet
  | alnum => .unionAll [.range '0' '9', .range 'A' 'Z', .range 'a' 'z']
  | alpha => .union (.range 'A' 'Z') (.range 'a' 'z')
  | ascii => .range '\x00' '\x7f'
  | blank => .union (.single '\t') (.single ' ')
  | cntrl => .union (.range '\x00' '\x1f') (.single '\x7f')
  | digit => .range '0' '9'
  | graph => .range '!' '~'
  | lower => .range 'a' 'z'
  | print => .range ' ' '~'
  | punct => .unionAll [.range '!' '/', .range ':' '@', .range '[' '\x60', .range '\x7b' '~']
  | space => CharSet.asciiSpace
  | upper => .range 'A' 'Z'
  | word => CharSet.asciiWord
  | xdigit => .unionAll [.range '0' '9', .range 'A' 'F', .range 'a' 'f']

namespace Flags

variable (flags : Flags)

/-- How lines end. -/
def lineEnd : LineEnd := if flags.carriageReturn then .crlf else .char flags.lineTerminator

/-- A set as the flags have it: with all case variants of its members if case is
ignored. -/
def fold (set : CharSet) : CharSet :=
  if !flags.caseless then set
  else if flags.unicode then .caseless set
  else .caselessAscii set

/-- The complement of a set if it is negated. Without Unicode a complement would
hold bytes that are no characters. -/
def negate (negated : Bool) (set : CharSet) : Except Fault CharSet :=
  if !negated then .ok set
  else if flags.unicode then .ok (.compl set)
  else .error .invalidText

/-- The character that a literal stands for. A byte beyond ASCII is no
character. -/
def literal (l : Literal) : Except Fault Char :=
  if l.byte && !flags.unicode && 0x80 ≤ l.char.toNat then .error .invalidText else .ok l.char

/-- The character of a literal within a class. Without Unicode a class holds
ASCII alone. -/
def classLiteral (l : Literal) : Except Fault Char :=
  if flags.unicode then .ok l.char
  else if l.byte && 0x80 ≤ l.char.toNat then .error .invalidText
  else if 0x80 ≤ l.char.toNat then .error .unicodeNotAllowed
  else .ok l.char

/-- The members of a class that has a letter. -/
def letterSet (kind : LetterClass) (negated : Bool) : Except Fault CharSet :=
  flags.negate negated <|
    match kind, flags.unicode with
    | .digit, true => CharSet.digit
    | .space, true => CharSet.space
    | .word, true => CharSet.word
    | .digit, false => CharSet.asciiDigit
    | .space, false => CharSet.asciiSpace
    | .word, false => CharSet.asciiWord

/-- The members of a property. -/
def propertySet (query : PropertyQuery) (negated : Bool) : Except Fault CharSet :=
  if !flags.unicode then .error .unicodeNotAllowed
  else
    match propertySet? query with
    | none => .error .propertyUnknown
    | some set => flags.negate negated (flags.fold set)

/-- The members of a part that has no parts. -/
def atomSet (atom : Atom) : Except Fault CharSet :=
  match atom with
  | .literal l => return flags.fold (.single (← flags.literal l))
  | .dot =>
    if !flags.unicode then .error .invalidText
    else .ok (.compl (if flags.dotAll then .empty else flags.lineEnd.set))
  | .property query negated => flags.propertySet query negated
  | .letter kind negated => flags.letterSet kind negated
  | .assertion _ => .error .classEscapeInvalid

mutual

/-- The members of a class. Case is ignored in each operand of an operator and in
each pair of brackets before these are negated. -/
def classSet : ClassTree → Except Fault CharSet
  | .atom (.literal l) => return .single (← flags.classLiteral l)
  | .atom atom => flags.atomSet atom
  | .range first last =>
    return .range (← flags.classLiteral first) (← flags.classLiteral last)
  | .ascii kind negated => flags.negate negated (flags.fold kind.set)
  | .bracketed negated inside => do flags.negate negated (flags.fold (← classSet inside))
  | .union items => classSets items
  | .binary op left right => do
    let a ← classSet left
    let b ← classSet right
    return match op with
      | .intersection => .inter (flags.fold a) (flags.fold b)
      | .difference => .diff (flags.fold a) (flags.fold b)
      | .symmetricDifference => .symmDiff (flags.fold a) (flags.fold b)

/-- The members of some classes. -/
def classSets : List ClassTree → Except Fault CharSet
  | [] => return .empty
  | item :: items => return .union (← classSet item) (← classSets items)

end

/-- The condition that an assertion states. -/
def look (assertion : Assertion) : Look :=
  match assertion with
  | .lineStart => if flags.multiLine then .lineStart flags.lineEnd else .textStart
  | .lineEnd => if flags.multiLine then .lineEnd flags.lineEnd else .textEnd
  | .textStart => .textStart
  | .textEnd => .textEnd
  | .wordBoundary => .word flags.unicode (· != ·)
  | .notWordBoundary => .word flags.unicode (· == ·)
  | .wordStart => .word flags.unicode (!· && ·)
  | .wordEnd => .word flags.unicode (· && !·)
  | .wordStartHalf => .word flags.unicode fun before _ => !before
  | .wordEndHalf => .word flags.unicode fun _ after => !after

end Flags

/-! ## Trees -/

mutual

/-- Resolves a tree under some flags, and returns the flags that hold after
it. -/
def Tree.resolve (flags : Flags) : Tree → Except Fault (Node × Flags)
  | .atom (.assertion assertion) => return (.look (flags.look assertion), flags)
  | .atom a => return (.step (← flags.atomSet a), flags)
  | .flags changes => return (.empty, changes.foldl Flags.apply flags)
  | .bracketed negated inside =>
    return (.step (← flags.negate negated (flags.fold (← flags.classSet inside))), flags)
  | .repetition least most body => do
    let (node, flags) ← body.resolve flags
    return (.rep least most node, flags)
  | .capture _ body => return ((← body.resolve flags).1, flags)
  | .group changes body => return ((← body.resolve (changes.foldl Flags.apply flags)).1, flags)
  | .concat parts => Tree.resolveConcat flags parts
  | .alternation branches => Tree.resolveAlternation flags branches

/-- Resolves parts in a row. -/
def Tree.resolveConcat (flags : Flags) : List Tree → Except Fault (Node × Flags)
  | [] => return (.empty, flags)
  | part :: parts => do
    let (a, flags) ← part.resolve flags
    let (b, flags) ← Tree.resolveConcat flags parts
    return (.seq a b, flags)

/-- Resolves branches. A change of flags in one holds in those after it. -/
def Tree.resolveAlternation (flags : Flags) : List Tree → Except Fault (Node × Flags)
  | [] => return (.empty, flags)
  | [branch] => branch.resolve flags
  | branch :: branches => do
    let (a, flags) ← branch.resolve flags
    let (b, flags) ← Tree.resolveAlternation flags branches
    return (.alt a b, flags)

end

/-! ## Size -/

/-- The most bytes that a regular expression may take. -/
def sizeLimit : Nat := 10 * 1024 * 1024

/-- About how many bytes the states for a node take, repetitions written out. -/
def Node.size : Node → Nat
  | .empty => 32
  | .step set => 32 + set.cost 1
  | .look _ => 32
  | .seq a b => size a + size b
  | .alt a b => size a + size b + 40
  | .rep least none body => (max least 1) * size body + 40
  | .rep least (some most) body => least * size body + (most - least) * (size body + 40)

/-- The meaning of a tree under some flags, unless it is too large. -/
def Tree.node (flags : Flags) (tree : Tree) : Except Fault Node := do
  let (node, _) ← tree.resolve flags
  if sizeLimit < node.size then .error (.tooLarge sizeLimit) else .ok node

end StepCondition.Pattern
