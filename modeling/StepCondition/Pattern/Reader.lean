import StepCondition.Pattern.Fault
import StepCondition.Pattern.Tree
import StepCondition.Text.Hex
import StepCondition.Unicode.Alphabetic
import StepCondition.Unicode.Blank

/-!
# From text to regular expressions

`Tree.read` reads a text as a regular expression or says what is wrong with it.
Readers take the rest of the text and return what they have read with the text
after it. The flag `spaced` lets blanks and remarks stand between the parts, so
most readers are told whether it is on.

Groups and brackets are read with one level of recursion less than what holds
them, and may not be nested deeper than `nestingLimit`.
-/

namespace StepCondition.Pattern

open Text Unicode

/-- How deep the parts of a regular expression may be nested. -/
def nestingLimit : Nat := 250

/-! ## Blanks between parts -/

mutual

/-- The text after blanks and remarks. -/
def skipBlanks : List Char → List Char
  | [] => []
  | c :: cs => if isBlank c then skipBlanks cs else if c = '#' then skipRemark cs else c :: cs

/-- `skipBlanks` from within a remark, which ends with its line. -/
def skipRemark : List Char → List Char
  | [] => []
  | c :: cs => if c = '\n' then skipBlanks cs else skipRemark cs

end

/-- The text after what may stand between two parts. -/
def skip (spaced : Bool) (cs : List Char) : List Char := if spaced then skipBlanks cs else cs

mutual

theorem skipBlanks_length_le : ∀ cs : List Char, (skipBlanks cs).length ≤ cs.length
  | [] => Nat.le_refl _
  | c :: cs => by
    rw [skipBlanks]
    split
    · exact Nat.le_succ_of_le (skipBlanks_length_le cs)
    · split
      · exact Nat.le_succ_of_le (skipRemark_length_le cs)
      · exact Nat.le_refl _

theorem skipRemark_length_le : ∀ cs : List Char, (skipRemark cs).length ≤ cs.length
  | [] => Nat.le_refl _
  | c :: cs => by
    rw [skipRemark]
    split
    · exact Nat.le_succ_of_le (skipBlanks_length_le cs)
    · exact Nat.le_succ_of_le (skipRemark_length_le cs)

end

theorem skip_length_le (spaced : Bool) (cs : List Char) :
    (skip spaced cs).length ≤ cs.length := by
  cases spaced
  · exact Nat.le_refl _
  · exact skipBlanks_length_le cs

/-- The leading characters that a test accepts, where blanks and remarks may
follow each of them, and the text after them. -/
def takeSpaced (spaced : Bool) (accepts : Char → Bool) : List Char → List Char × List Char
  | [] => ([], [])
  | c :: cs =>
    if accepts c then
      have := skip_length_le spaced cs
      let (taken, rest) := takeSpaced spaced accepts (skip spaced cs)
      (c :: taken, rest)
    else ([], c :: cs)
termination_by cs => cs.length

/-! ## Numbers and names -/

/-- The count of a repetition, with blanks around it. -/
def readCount (spaced : Bool) (cs : List Char) : Except Fault (Nat × List Char) :=
  let (digits, rest) := takeSpaced spaced Char.isDigit (cs.dropWhile isBlank)
  let rest := (takeSpaced spaced isBlank rest).2
  let n := digits.foldl (fun n c => n * 10 + (c.toNat - '0'.toNat)) 0
  if digits = [] then .error .countEmpty
  else if n < Nat.pow 2 32 then .ok (n, rest)
  else .error .countOutOfRange

/-- The character that a row of hexadecimal digits stands for. -/
def hexChar (digits : List Char) : Except Fault Char :=
  match hexValue? digits with
  | none => .error .hexDigitInvalid
  | some n =>
    if digits = [] then .error .hexDigitInvalid
    else if n.isValidChar then .ok (Char.ofNat n)
    else .error .hexNotACharacter

/-- So many characters, where blanks and remarks may follow each of them. -/
def takeExactly (spaced : Bool) : Nat → List Char → Option (List Char × List Char)
  | 0, cs => some ([], cs)
  | _ + 1, [] => none
  | n + 1, c :: cs => do
    let (taken, rest) ← takeExactly spaced n (skip spaced cs)
    return (c :: taken, rest)

/-- A character by its number: so many digits, or any number of them in
braces. -/
def readHex (spaced : Bool) (digits : Nat) (cs : List Char) : Except Fault (Literal × List Char) :=
  match skip spaced cs with
  | [] => .error .escapeUnexpectedEnd
  | '\x7b' :: cs =>
    match takeSpaced spaced (· ≠ '\x7d') (skip spaced cs) with
    | (_, []) => .error .escapeUnexpectedEnd
    | (taken, _ :: rest) => do
      let c ← hexChar taken
      return (⟨c, false⟩, skip spaced rest)
  | cs =>
    match takeExactly spaced digits cs with
    | none => .error .escapeUnexpectedEnd
    | some (taken, rest) => do
      let c ← hexChar taken
      return (⟨c, digits = 2⟩, rest)

/-- Splits a list at the first occurrence of another. -/
def splitAt? (sep : List Char) : List Char → Option (List Char × List Char)
  | [] => none
  | c :: cs =>
    if sep.isPrefixOf (c :: cs) then some ([], (c :: cs).drop sep.length)
    else (splitAt? sep cs).map fun (before, after) => (c :: before, after)

/-- The property that the text in braces asks for: a name, or a name and a value
with `!=`, `:` or `=` between them, the first of these that occurs. -/
def propertyQuery (cs : List Char) : PropertyQuery :=
  match ([['!', '='], [':'], ['=']].findSome? fun sep => splitAt? sep cs) with
  | some (property, value) => .value (String.ofList property) (String.ofList value)
  | none => .name (String.ofList cs)

/-- The property after `\p` or `\P`: one letter, or a text in braces. -/
def readProperty (spaced : Bool) (cs : List Char) : Except Fault (PropertyQuery × List Char) :=
  match skip spaced cs with
  | [] => .error .escapeUnexpectedEnd
  | '\x7b' :: cs =>
    match takeSpaced spaced (· ≠ '\x7d') (skip spaced cs) with
    | (_, []) => .error .escapeUnexpectedEnd
    | (taken, _ :: rest) => .ok (propertyQuery taken, rest)
  | c :: cs =>
    if c = '\\' then .error .propertyInvalid
    else .ok (.name (String.singleton c), skip spaced cs)

/-! ## Escapes -/

/-- Whether a character has a meaning of its own somewhere in a regular
expression. -/
def isMeta (c : Char) : Bool :=
  ['\\', '.', '+', '*', '?', '(', ')', '|', '[', ']', '\x7b', '\x7d', '^', '$', '#', '&', '-',
    '~'].contains c

/-- Whether a backslash before a character leaves it as it is: any character of
ASCII but letters, digits and angle brackets. -/
def isEscapable (c : Char) : Bool :=
  isMeta c || (c.toNat < 0x80 && !c.isAlphanum && c ≠ '<' && c ≠ '>')

/-- The kind of word boundary that stands in braces after `\b`. -/
def boundaryOfName? (name : List Char) : Option Assertion :=
  [("start", Assertion.wordStart), ("end", .wordEnd), ("start-half", .wordStartHalf),
    ("end-half", .wordEndHalf)].findSome? fun (n, kind) =>
      if n.toList = name then some kind else none

/-- What follows `\b`: the kind of a word boundary in braces. Braces that hold no
name belong to a repetition. -/
def readBoundary (spaced : Bool) (cs : List Char) : Except Fault (Assertion × List Char) :=
  match cs with
  | '\x7b' :: inside =>
    let isNameChar (c : Char) : Bool := c.isAlpha || c = '-'
    match skip spaced inside with
    | [] => .error .boundaryUnclosed
    | c :: rest =>
      if isNameChar c then
        match takeSpaced spaced isNameChar (c :: rest) with
        | (name, '\x7d' :: rest) =>
          match boundaryOfName? name with
          | some kind => .ok (kind, rest)
          | none => .error .boundaryUnrecognized
        | _ => .error .boundaryUnclosed
      else .ok (.wordBoundary, cs)
  | _ => .ok (.wordBoundary, cs)

/-- The character that a letter after a backslash stands for. -/
def controlOfLetter? : Char → Option Char
  | 'a' => some '\x07'
  | 'f' => some '\x0c'
  | 't' => some '\t'
  | 'n' => some '\n'
  | 'r' => some '\r'
  | 'v' => some '\x0b'
  | _ => none

/-- The class that a letter after a backslash stands for, negated by a
capital. -/
def letterClass? : Char → Option (LetterClass × Bool)
  | 'd' => some (.digit, false)
  | 'D' => some (.digit, true)
  | 's' => some (.space, false)
  | 'S' => some (.space, true)
  | 'w' => some (.word, false)
  | 'W' => some (.word, true)
  | _ => none

/-- The assertion that a letter or a bracket after a backslash stands for. -/
def assertionOfLetter? : Char → Option Assertion
  | 'A' => some .textStart
  | 'z' => some .textEnd
  | 'B' => some .notWordBoundary
  | '<' => some .wordStart
  | '>' => some .wordEnd
  | _ => none

/-- What a backslash introduces. -/
def readEscape (spaced : Bool) : List Char → Except Fault (Atom × List Char)
  | [] => .error .escapeUnexpectedEnd
  | c :: cs =>
    if c.isDigit then .error .backreference
    else if c = 'x' then return (← readHex spaced 2 cs).map .literal id
    else if c = 'u' then return (← readHex spaced 4 cs).map .literal id
    else if c = 'U' then return (← readHex spaced 8 cs).map .literal id
    else if c = 'p' || c = 'P' then
      return (← readProperty spaced cs).map (.property · (c = 'P')) id
    else if c = 'b' then return (← readBoundary spaced cs).map .assertion id
    else if isEscapable c then .ok (.literal ⟨c, false⟩, cs)
    else
      match letterClass? c, controlOfLetter? c, assertionOfLetter? c with
      | some (kind, negated), _, _ => .ok (.letter kind negated, cs)
      | _, some control, _ => .ok (.literal ⟨control, false⟩, cs)
      | _, _, some assertion => .ok (.assertion assertion, cs)
      | _, _, _ => .error .escapeUnrecognized

/-! ## Classes in brackets -/

/-- The class of ASCII with a name. -/
def asciiClassOfName? (name : List Char) : Option AsciiClass :=
  [("alnum", AsciiClass.alnum), ("alpha", .alpha), ("ascii", .ascii), ("blank", .blank),
    ("cntrl", .cntrl), ("digit", .digit), ("graph", .graph), ("lower", .lower),
    ("print", .print), ("punct", .punct), ("space", .space), ("upper", .upper),
    ("word", .word), ("xdigit", .xdigit)].findSome? fun (n, kind) =>
      if n.toList = name then some kind else none

/-- A named class of ASCII after its bracket. What is none may still be a class
in brackets. -/
def asciiClass? (cs : List Char) : Option (ClassTree × List Char) :=
  match cs with
  | ':' :: cs =>
    let (negated, cs) := match cs with
      | '^' :: rest => (true, rest)
      | _ => (false, cs)
    match cs.dropWhile (· ≠ ':') with
    | ':' :: ']' :: rest =>
      (asciiClassOfName? (cs.takeWhile (· ≠ ':'))).map fun kind => (.ascii kind negated, rest)
    | _ => none
  | _ => none

/-- The character that decides whether a dash in a class stands for itself: the
next one, past blanks and one mark of a remark where those may stand. -/
def peekPastDash (spaced : Bool) (cs : List Char) : Option Char :=
  if spaced then
    let seen := match cs.dropWhile isBlank with
      | '#' :: rest => rest.dropWhile isBlank
      | rest => rest
    seen.head?.or cs.head?
  else cs.head?

/-- One character or escape of a class. -/
def readClassAtom (spaced : Bool) : List Char → Except Fault (Atom × List Char)
  | [] => .error .classUnclosed
  | '\\' :: cs => readEscape spaced cs
  | c :: cs => .ok (.literal ⟨c, false⟩, cs)

/-- An atom as an item of a class. -/
def classItem (atom : Atom) : Except Fault ClassTree :=
  match atom with
  | .literal _ | .property .. | .letter .. => .ok (.atom atom)
  | .dot | .assertion _ => .error .classEscapeInvalid

/-- An atom as an end of a range. -/
def rangeEnd (atom : Atom) : Except Fault Literal :=
  match atom with
  | .literal l => .ok l
  | _ => .error .classRangeNotLiteral

/-- An item of a class, or two with a dash between them. A dash stands for itself
before the closing bracket and before another dash. -/
def readRange (spaced : Bool) (cs : List Char) : Except Fault (ClassTree × List Char) := do
  let (first, cs) ← readClassAtom spaced cs
  match skip spaced cs with
  | [] => .error .classUnclosed
  | '-' :: rest =>
    let ahead := peekPastDash spaced rest
    if ahead = some ']' || ahead = some '-' then
      return (← classItem first, '-' :: rest)
    else
      let (last, cs) ← readClassAtom spaced (skip spaced rest)
      let first ← rangeEnd first
      let last ← rangeEnd last
      if first.char ≤ last.char then return (.range first last, cs)
      else .error .classRangeInvalid
  | cs => return (← classItem first, cs)

/-- The items of a class in reverse, with what stands before the last operator:
operators are applied from left to right. -/
def closeOperand (before : Option (ClassTree × ClassOp)) (items : List ClassTree) : ClassTree :=
  let right := ClassTree.ofItems items.reverse
  match before with
  | some (left, op) => .binary op left right
  | none => right

/-- The rest of a class up to its closing bracket, each round reading an item or
an operator. -/
def readItems (bracketed : List Char → Except Fault (ClassTree × List Char)) (spaced : Bool) :
    Nat → Option (ClassTree × ClassOp) → List ClassTree → List Char →
      Except Fault (ClassTree × List Char)
  | 0, _, _, _ => .error .classUnclosed
  | rounds + 1, before, items, cs => do
    let operator (op : ClassOp) (rest : List Char) : Except Fault (ClassTree × List Char) :=
      readItems bracketed spaced rounds (some (closeOperand before items, op)) [] rest
    match skip spaced cs with
    | [] => .error .classUnclosed
    | ']' :: rest => return (closeOperand before items, rest)
    | '[' :: rest =>
      let (item, rest) ← match asciiClass? rest with
        | some found => .ok found
        | none => bracketed rest
      readItems bracketed spaced rounds before (item :: items) rest
    | '&' :: '&' :: rest => operator .intersection rest
    | '-' :: '-' :: rest => operator .difference rest
    | '~' :: '~' :: rest => operator .symmetricDifference rest
    | cs =>
      let (item, rest) ← readRange spaced cs
      readItems bracketed spaced rounds before (item :: items) rest

/-- A class after its opening bracket. Dashes at its start and a closing bracket
before any other item stand for themselves. -/
def readBracketed (spaced : Bool) : Nat → List Char → Except Fault ((Bool × ClassTree) × List Char)
  | 0, _ => .error (.nestingTooDeep nestingLimit)
  | levels + 1, cs => do
    let (negated, cs) := match skip spaced cs with
      | '^' :: rest => (true, skip spaced rest)
      | cs => (false, cs)
    let (dashes, cs) := takeSpaced spaced (· = '-') cs
    let (items, cs) := match dashes, cs with
      | [], ']' :: rest => ([ClassTree.atom (.literal ⟨']', false⟩)], skip spaced rest)
      | _, cs => (dashes.map fun c => ClassTree.atom (.literal ⟨c, false⟩), cs)
    let nested (rest : List Char) : Except Fault (ClassTree × List Char) := do
      let ((negated, inside), rest) ← readBracketed spaced levels rest
      return (.bracketed negated inside, rest)
    let (inside, rest) ← readItems nested spaced (cs.length + 1) none items cs
    return ((negated, inside), rest)

/-! ## Groups -/

/-- The flag that a letter stands for. -/
def flagOfLetter? : Char → Option Flag
  | 'i' => some .caseless
  | 'm' => some .multiLine
  | 's' => some .dotAll
  | 'U' => some .swapGreed
  | 'u' => some .unicode
  | 'R' => some .carriageReturn
  | 'x' => some .spaced
  | _ => none

/-- Flags up to a colon or a closing parenthesis: letters, of which those after a
minus are turned off. `dangling` holds right after the minus. -/
def readFlags (on dangling : Bool) (changes : List FlagChange) :
    List Char → Except Fault (List FlagChange × List Char)
  | [] => .error .flagUnexpectedEnd
  | c :: cs =>
    if c = ':' || c = ')' then
      if dangling then .error .flagNegationDangling else .ok (changes.reverse, c :: cs)
    else if c = '-' then
      if on then readFlags false true changes cs else .error .flagDuplicate
    else
      match flagOfLetter? c with
      | none => .error .flagUnrecognized
      | some flag =>
        if changes.any (·.flag = flag) then .error .flagDuplicate
        else readFlags on false (⟨flag, on⟩ :: changes) cs

/-- What an opening parenthesis introduces: a change of flags for the rest of the
group around it, or a group. -/
inductive GroupHead where
  | flags (changes : List FlagChange)
  | capture (name : Option String)
  | group (changes : List FlagChange)

/-- Whether a character may stand in the name of a group. -/
def isGroupNameChar (c : Char) : Bool :=
  isAlphanumeric c || c = '_' || c = '.' || c = '[' || c = ']'

/-- The name of a group up to its closing angle bracket. -/
def readGroupName (cs : List Char) : Except Fault (GroupHead × List Char) :=
  match cs.takeWhile (· ≠ '>'), cs.dropWhile (· ≠ '>') with
  | first :: more, _ :: rest =>
    if (isAlphabetic first || first = '_') && more.all isGroupNameChar then
      .ok (.capture (some (String.ofList (first :: more))), rest)
    else .error .groupNameInvalid
  | _, _ => .error .groupNameInvalid

/-- What follows an opening parenthesis up to the body of the group. -/
def readGroupHead (spaced : Bool) (cs : List Char) : Except Fault (GroupHead × List Char) :=
  match skip spaced cs with
  | '?' :: '=' :: _ | '?' :: '!' :: _ | '?' :: '<' :: '=' :: _ | '?' :: '<' :: '!' :: _ =>
    .error .lookAround
  | '?' :: 'P' :: '<' :: rest => readGroupName rest
  | '?' :: '<' :: rest => readGroupName rest
  | '?' :: rest => do
    match ← readFlags true false [] rest with
    | ([], ')' :: _) => .error .repetitionMissing
    | (changes, ')' :: rest) => return (.flags changes, rest)
    | (changes, rest) => return (.group changes, rest.tail)
  | cs => .ok (.capture none, cs)

/-- Whether blanks may stand between parts after a change of flags. -/
def spacedAfter (changes : List FlagChange) (spaced : Bool) : Bool :=
  ((changes.filter (·.flag = .spaced)).getLast?.map (·.on)).getD spaced

/-! ## Repetitions -/

/-- The parts so far, in reverse, with the last one repeated. -/
def repeatLast (least : Nat) (most : Option Nat) : List Tree → Except Fault (List Tree)
  | [] | .flags _ :: _ => .error .repetitionMissing
  | part :: parts => .ok (.repetition least most part :: parts)

/-- The text after a question mark, which only changes what is tried first. -/
def skipLazy : List Char → List Char
  | '?' :: cs => cs
  | cs => cs

/-- The least and the most count of a repetition in braces. -/
def readCounts (spaced : Bool) (cs : List Char) : Except Fault ((Nat × Option Nat) × List Char) := do
  let (least, cs) ← readCount spaced (skip spaced cs)
  let ((counts : Nat × Option Nat), cs) ← match cs with
    | ',' :: cs =>
      match skip spaced cs with
      | '\x7d' :: cs => pure ((least, none), '\x7d' :: cs)
      | cs => do
        let (most, cs) ← readCount spaced cs
        pure ((least, some most), cs)
    | cs => pure ((least, some least), cs)
  match cs with
  | '\x7d' :: cs =>
    if counts.2.all (counts.1 ≤ ·) then return (counts, skipLazy (skip spaced cs))
    else .error .countRangeInvalid
  | _ => .error .countUnclosed

/-! ## Expressions -/

/-- The rest of a group up to its end, each round reading a part. `parts` are the
parts of the branch being read and `branches` the branches before it, both in
reverse. -/
def readParts (body : Bool → List Char → Except Fault (Tree × List Char)) :
    Nat → Bool → List Tree → List Tree → List Char → Except Fault (Tree × List Char)
  | 0, _, _, _, _ => .error .groupUnclosed
  | rounds + 1, spaced, branches, parts, cs => do
    let branch := Tree.ofParts parts.reverse
    let atom (a : Atom) (rest : List Char) : Except Fault (Tree × List Char) :=
      readParts body rounds spaced branches (.atom a :: parts) rest
    let repeated (least : Nat) (most : Option Nat) (rest : List Char) :
        Except Fault (Tree × List Char) := do
      readParts body rounds spaced branches (← repeatLast least most parts) rest
    match skip spaced cs with
    | [] => return (.ofBranches (branch :: branches).reverse, [])
    | ')' :: rest => return (.ofBranches (branch :: branches).reverse, ')' :: rest)
    | '|' :: rest => readParts body rounds spaced (branch :: branches) [] rest
    | '(' :: rest =>
      let (head, rest) ← readGroupHead spaced rest
      let group (make : Tree → Tree) (spacedInside : Bool) : Except Fault (Tree × List Char) := do
        match ← body spacedInside rest with
        | (inside, ')' :: rest) =>
          readParts body rounds spaced branches (make inside :: parts) rest
        | _ => .error .groupUnclosed
      match head with
      | .flags changes =>
        readParts body rounds (spacedAfter changes spaced) branches (.flags changes :: parts) rest
      | .capture name => group (.capture name) spaced
      | .group changes => group (.group changes) (spacedAfter changes spaced)
    | '[' :: rest =>
      let ((negated, inside), rest) ← readBracketed spaced (nestingLimit + 1) rest
      readParts body rounds spaced branches (.bracketed negated inside :: parts) rest
    | '?' :: rest => repeated 0 (some 1) (skipLazy rest)
    | '*' :: rest => repeated 0 none (skipLazy rest)
    | '+' :: rest => repeated 1 none (skipLazy rest)
    | '\x7b' :: rest =>
      if parts.isEmpty then .error .repetitionMissing
      else
        let ((least, most), rest) ← readCounts spaced rest
        repeated least most rest
    | '\\' :: rest =>
      let (a, rest) ← readEscape spaced rest
      atom a rest
    | '.' :: rest => atom .dot rest
    | '^' :: rest => atom (.assertion .lineStart) rest
    | '$' :: rest => atom (.assertion .lineEnd) rest
    | c :: rest => atom (.literal ⟨c, false⟩) rest

/-- The body of a group: branches between bars. -/
def readBranches : Nat → Bool → List Char → Except Fault (Tree × List Char)
  | 0, _, _ => .error (.nestingTooDeep nestingLimit)
  | levels + 1, spaced, cs => readParts (readBranches levels) (cs.length + 1) spaced [] [] cs

/-- The first name that a list holds twice. -/
def repeatedName? : List String → Option String
  | [] => none
  | name :: names => if names.contains name then some name else repeatedName? names

/-- The regular expression that a text spells. -/
def Tree.read (text : String) : Except Fault Tree := do
  match ← readBranches (nestingLimit + 1) false text.toList with
  | (tree, []) =>
    if let some name := repeatedName? tree.groupNames then .error (.groupNameDuplicate name)
    else if nestingLimit < tree.depth then .error (.nestingTooDeep nestingLimit)
    else .ok tree
  | _ => .error .groupUnopened

end StepCondition.Pattern
