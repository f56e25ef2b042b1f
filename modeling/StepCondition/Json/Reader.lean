import StepCondition.Json
import StepCondition.Text.Hex
import StepCondition.Text.Plain

/-!
# From text to JSON

`Json.read` reads a text as one JSON value with nothing but blanks around it. Of
two members of an object with the same name the last counts. Arrays and objects
may be nested no deeper than `Json.nestingLimit`, and a decimal may not exceed the
greatest finite double (`Json.exceedsDouble`).

Readers take the rest of the text and return what they have read with the text
after it. What holds other values is read with one level of recursion less.
-/

namespace StepCondition.Json

open Text

/-- How deep arrays and objects may be nested. -/
def nestingLimit : Nat := 127

/-- What can be wrong with a text. -/
inductive Fault where
  | unexpectedEnd
  | unexpectedCharacter (c : Char)
  | controlCharacter
  | invalidEscape
  | loneSurrogate
  | invalidNumber
  | numberOutOfRange
  | nestingTooDeep
  | trailingCharacters
  deriving DecidableEq, Repr

/-- The message for a fault. -/
def Fault.message : Fault → String
  | unexpectedEnd => "unexpected end of text"
  | unexpectedCharacter c => "unexpected character " ++ String.singleton c
  | controlCharacter => "control character in a string"
  | invalidEscape => "invalid escape"
  | loneSurrogate => "lone surrogate in an escape"
  | invalidNumber => "invalid number"
  | numberOutOfRange => "number out of range"
  | nestingTooDeep => "nesting too deep"
  | trailingCharacters => "trailing characters"

/-- Whether a character may stand between the parts of a text. -/
def isSpace (c : Char) : Bool := c = ' ' || c = '\n' || c = '\t' || c = '\r'

/-- The text after blanks. -/
def skipSpace (cs : List Char) : List Char := cs.dropWhile isSpace

/-- A fault where something else should come next. -/
def unexpected {α : Type} : List Char → Except Fault α
  | [] => .error .unexpectedEnd
  | c :: _ => .error (.unexpectedCharacter c)

/-! ## Numbers -/

/-- The nearest number of at most 53 binary digits, of two the one that is even in
its last digit. -/
def nearestDouble (n : Nat) : Nat :=
  if n < Nat.pow 2 53 then n
  else
    let shift := n.log2 - 52
    let quotient := n >>> shift
    let rest := n - quotient <<< shift
    let half := Nat.pow 2 (shift - 1)
    let up := half < rest || (rest = half && quotient % 2 = 1)
    (quotient + up.toNat) <<< shift

/-- The digits that a decimal is measured by, as a number with what is left of
them: as many as fit 64 bits. -/
def measuredDigits (n : Nat) : List Char → Nat × List Char
  | [] => (n, [])
  | c :: cs =>
    let next := n * 10 + (c.toNat - '0'.toNat)
    if next < Nat.pow 2 64 then measuredDigits next cs else (n, c :: cs)

/-- Whether the product of a whole number and a power of ten, both rounded to
doubles, is rounded to infinity. -/
def productExceedsDouble (n : Nat) (exponent : Int) : Bool :=
  0 < n && 0 ≤ exponent &&
    (308 < exponent ||
      Nat.pow 2 1024 - Nat.pow 2 970 ≤
        nearestDouble n * nearestDouble (Nat.pow 10 exponent.toNat))

/-- Whether a decimal, given by its digits before and after the point and its
exponent, exceeds the greatest finite double. -/
def exceedsDouble (whole fraction : List Char) (exponent : Int) : Bool :=
  match measuredDigits 0 whole with
  | (n, []) =>
    let (n, rest) := measuredDigits n fraction
    productExceedsDouble n (exponent - (fraction.length - rest.length : Nat))
  | (n, rest) => productExceedsDouble n (exponent + rest.length)

/-- The number that its parts spell. An integer that does not fit is a decimal,
and so is minus zero. -/
def ofNumberParts (negative : Bool) (whole fraction : List Char) (exponent : Int)
    (plain : Bool) : Except Fault Json :=
  let n := decimalValue whole
  if plain && !negative && n < Nat.pow 2 64 then .ok (.integer n)
  else if plain && negative && 0 < n && n ≤ Nat.pow 2 63 then .ok (.integer (-n))
  else if exceedsDouble whole fraction exponent then .error .numberOutOfRange
  else
    let mantissa : Int := decimalValue (whole ++ fraction)
    .ok (.decimal (if negative then -mantissa else mantissa) (exponent - fraction.length))

/-- The digits after a point, if there is one: then there has to be a digit. -/
def readFraction : List Char → Except Fault (List Char × List Char)
  | '.' :: cs =>
    match cs.takeWhile Char.isDigit with
    | [] => .error .invalidNumber
    | digits => .ok (digits, cs.dropWhile Char.isDigit)
  | cs => .ok ([], cs)

/-- The exponent, if there is one: then there has to be a digit. -/
def readExponent : List Char → Except Fault (Option Int × List Char)
  | c :: cs =>
    if c = 'e' || c = 'E' then
      let (negative, cs) := match cs with
        | '-' :: rest => (true, rest)
        | '+' :: rest => (false, rest)
        | _ => (false, cs)
      match cs.takeWhile Char.isDigit with
      | [] => .error .invalidNumber
      | digits =>
        let n : Int := decimalValue digits
        .ok (some (if negative then -n else n), cs.dropWhile Char.isDigit)
    else .ok (none, c :: cs)
  | [] => .ok (none, [])

/-- A number after its sign. Only zero starts with a zero. -/
def readNumber (negative : Bool) (cs : List Char) : Except Fault (Json × List Char) := do
  let whole := cs.takeWhile Char.isDigit
  let rest := cs.dropWhile Char.isDigit
  if whole = [] || (whole.head? = some '0' && whole.length ≠ 1) then .error .invalidNumber
  else
    let (fraction, rest) ← readFraction rest
    let (exponent, rest) ← readExponent rest
    let plain := fraction = [] && exponent.isNone
    return (← ofNumberParts negative whole fraction (exponent.getD 0) plain, rest)

/-! ## Strings -/

/-- The character that a letter after a backslash stands for. -/
def escaped? : Char → Option Char
  | '"' => some '"'
  | '\\' => some '\\'
  | '/' => some '/'
  | 'b' => some '\x08'
  | 'f' => some '\x0c'
  | 'n' => some '\n'
  | 'r' => some '\r'
  | 't' => some '\t'
  | _ => none

/-- The rest of a string up to its closing quote, with what comes before it in
reverse. A character beyond 16 bits may be escaped as a pair of surrogates. -/
def readText (before : List Char) : List Char → Except Fault (String × List Char)
  | [] => .error .unexpectedEnd
  | '"' :: cs => .ok (String.ofList before.reverse, cs)
  | '\\' :: 'u' :: a :: b :: c :: d :: cs =>
    match hexValue? [a, b, c, d] with
    | none => .error .invalidEscape
    | some n =>
      if n < 0xD800 || 0xDFFF < n then readText (Char.ofNat n :: before) cs
      else if 0xDC00 ≤ n then .error .loneSurrogate
      else
        match cs with
        | '\\' :: 'u' :: a :: b :: c :: d :: cs =>
          match hexValue? [a, b, c, d] with
          | none => .error .invalidEscape
          | some m =>
            if 0xDC00 ≤ m && m ≤ 0xDFFF then
              readText (Char.ofNat (0x10000 + (n - 0xD800) * 0x400 + (m - 0xDC00)) :: before) cs
            else .error .loneSurrogate
        | _ => .error .loneSurrogate
  | '\\' :: c :: cs =>
    match escaped? c with
    | some c => readText (c :: before) cs
    | none => .error .invalidEscape
  | c :: cs => if c < ' ' then .error .controlCharacter else readText (c :: before) cs

/-! ## Values -/

section Containers

variable (value : List Char → Except Fault (Json × List Char))

/-- The further items of an array up to its closing bracket. -/
def moreItems : Nat → List Char → Except Fault (List Json × List Char)
  | 0, _ => .error .unexpectedEnd
  | rounds + 1, cs =>
    match skipSpace cs with
    | ']' :: rest => .ok ([], rest)
    | ',' :: rest => do
      let (item, rest) ← value rest
      let (items, rest) ← moreItems rounds rest
      return (item :: items, rest)
    | rest => unexpected rest

/-- The items of an array after its opening bracket. -/
def readItems (cs : List Char) : Except Fault (List Json × List Char) :=
  match skipSpace cs with
  | ']' :: rest => .ok ([], rest)
  | cs => do
    let (item, rest) ← value cs
    let (items, rest) ← moreItems value (rest.length + 1) rest
    return (item :: items, rest)

/-- A member of an object: a string, a colon and a value. -/
def readMember (cs : List Char) : Except Fault ((String × Json) × List Char) :=
  match skipSpace cs with
  | '"' :: rest => do
    let (name, rest) ← readText [] rest
    match skipSpace rest with
    | ':' :: rest =>
      let (v, rest) ← value rest
      return ((name, v), rest)
    | rest => unexpected rest
  | rest => unexpected rest

/-- The further members of an object up to its closing brace. -/
def moreMembers : Nat → List Char → Except Fault (List (String × Json) × List Char)
  | 0, _ => .error .unexpectedEnd
  | rounds + 1, cs =>
    match skipSpace cs with
    | '\x7d' :: rest => .ok ([], rest)
    | ',' :: rest => do
      let (m, rest) ← readMember value rest
      let (members, rest) ← moreMembers rounds rest
      return (m :: members, rest)
    | rest => unexpected rest

/-- The members of an object after its opening brace. -/
def readMembers (cs : List Char) : Except Fault (List (String × Json) × List Char) :=
  match skipSpace cs with
  | '\x7d' :: rest => .ok ([], rest)
  | cs => do
    let (m, rest) ← readMember value cs
    let (members, rest) ← moreMembers value (rest.length + 1) rest
    return (m :: members, rest)

end Containers

/-- A value that holds no others, by the first character of its text. -/
def readScalar (c : Char) (cs : List Char) : Except Fault (Json × List Char) :=
  match c, cs with
  | 'n', 'u' :: 'l' :: 'l' :: rest => .ok (.null, rest)
  | 't', 'r' :: 'u' :: 'e' :: rest => .ok (.boolean true, rest)
  | 'f', 'a' :: 'l' :: 's' :: 'e' :: rest => .ok (.boolean false, rest)
  | '"', rest => do
    let (text, rest) ← readText [] rest
    return (.string text, rest)
  | '-', rest => readNumber true rest
  | c, rest => if c.isDigit then readNumber false (c :: rest) else .error (.unexpectedCharacter c)

/-- A value whose arrays and objects are nested no deeper than the levels. -/
def readValue : Nat → List Char → Except Fault (Json × List Char)
  | 0, cs =>
    match skipSpace cs with
    | [] => .error .unexpectedEnd
    | c :: rest => if c = '[' || c = '\x7b' then .error .nestingTooDeep else readScalar c rest
  | levels + 1, cs =>
    match skipSpace cs with
    | [] => .error .unexpectedEnd
    | '[' :: rest => do
      let (items, rest) ← readItems (readValue levels) rest
      return (.array items, rest)
    | '\x7b' :: rest => do
      let (members, rest) ← readMembers (readValue levels) rest
      return (.object (.ofList members), rest)
    | c :: rest => readScalar c rest

/-- The JSON value that a text spells. -/
def read (text : String) : Except Fault Json := do
  match ← readValue nestingLimit text.toList with
  | (v, rest) => if skipSpace rest = [] then return v else .error .trailingCharacters

end StepCondition.Json
