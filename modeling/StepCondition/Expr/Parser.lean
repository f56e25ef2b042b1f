import StepCondition.Expr
import StepCondition.Log
import StepCondition.Token.Scan

/-!
# From tokens to trees

A parser holds the tokens still to be read and the errors found so far. An error
does not stop it: it is noted, and reading goes on, so that one pass finds all
independent errors (`Parser.parse`). `parse` accepts a text only if there was
none.

Nesting is bounded. Every operand and every operator of a chain goes one level
deeper; past `maxDepth` the rest of the tokens is dropped, and no error after
that is noted. So `maxDepth + 1` levels of recursion are enough for every text:
the parser is given that many and never runs out.
-/

namespace StepCondition

/-- The deepest nesting that a condition may have. -/
def maxDepth : Nat := 256

/-- What can be wrong with the text of a condition. -/
inductive SyntaxError where
  | tooDeep
  /-- A number that no integer of 64 bits holds. -/
  | integerOutOfRange (digits : String)
  | illegalCharacter (c : Char)
  | unexpectedEnd
  /-- A token that starts no expression where one has to start. -/
  | startsNoExpression (token : Token)
  | expected (wanted : Token) (found : Option Token)
  /-- A token after the end of the condition. -/
  | trailing (token : Token)
  | noExpression
  deriving DecidableEq, Repr

/-- The message for an error. -/
def SyntaxError.message : SyntaxError → String
  | tooDeep => "expression nesting exceeds maximum depth of " ++ toString maxDepth
  | integerOutOfRange digits => "could not parse " ++ Text.quoted digits ++ " as integer"
  | illegalCharacter c => "illegal character '" ++ String.singleton c ++ "'"
  | unexpectedEnd => "unexpected end of input"
  | startsNoExpression token => "no prefix parse function for " ++ token.display ++ " found"
  | expected wanted found =>
    "expected next token to be " ++ wanted.display ++ ", got " ++ Token.displayNext found ++
      " instead"
  | trailing token => "expected end of input, got " ++ token.display
  | noExpression => "no expression found"

/-- A parser in the course of its work. -/
structure Parser where
  /-- The tokens not read yet. -/
  input : List Token
  /-- The errors found so far, latest first. -/
  found : List SyntaxError := []
  /-- What has been noted for the operator, latest first. -/
  notes : List LogEntry := []
  /-- How deep the expression being read is nested. -/
  depth : Nat := 0
  /-- Whether nesting has gone past the limit. -/
  tooDeep : Bool := false
  deriving Repr

/-- The integer of 64 bits that a row of digits spells, if it is in range. -/
def integerOfDigits? (digits : String) : Option Int64 :=
  let n : Int := Text.decimalValue digits.toList
  if n ≤ Int64.maxValue.toInt then some (Int64.ofInt n) else none

/-- The operator that a token stands for between two operands. -/
def Token.binaryOp? : Token → Option BinaryOp
  | equal => some .equal
  | notEqual => some .notEqual
  | matching => some .matching
  | notMatching => some .notMatching
  | contains => some .contains
  | and => some .and
  | or => some .or
  | dot => some .access
  | _ => none

namespace Parser

/-- A parser before the first token of a text. -/
def ofText (text : String) : Parser := { input := tokens text.toList }

/-- The errors found so far, in order. -/
def errors (p : Parser) : List SyntaxError := p.found.reverse

/-- What has been noted for the operator, in order. -/
def log (p : Parser) : List LogEntry := p.notes.reverse

/-! ## Steps -/

/-- A step of a parser. It has no outcome if it needs more levels of recursion
than it was given. -/
abbrev Step (α : Type) := StateT Parser Option α

/-- The next token. -/
def peek : Step (Option Token) := return (← get).input.head?

/-- Goes past the next token. -/
def advance : Step Unit := modify fun p => { p with input := p.input.tail }

/-- A parser that has noted an error, unless nesting has gone past its limit: what
comes after that only says that reading has stopped. -/
def note (p : Parser) (e : SyntaxError) : Parser :=
  if p.tooDeep then p
  else { p with
    found := e :: p.found
    notes := ⟨.debug, "parse error: " ++ e.message⟩ :: p.notes }

/-- Notes an error. -/
def report (e : SyntaxError) : Step Unit := modify (·.note e)

/-- Goes one level deeper if the limit permits, and else drops the rest of the
tokens. -/
def descend : Step Bool := do
  modify fun p => { p with depth := p.depth + 1 }
  if (← get).depth ≤ maxDepth then
    return true
  else
    report .tooDeep
    modify fun p => { p with tooDeep := true, input := [] }
    return false

/-- Goes past a token that has to come next. Another token stays where it is. -/
def expect (wanted : Token) : Step Unit := do
  let found ← peek
  if found = some wanted then advance else report (.expected wanted found)

/-! ## Parts of an expression

Each part is read with the help of a reader of the expressions inside it, which
has one level of recursion less. -/

section Parts

variable (expression : Precedence → Step (Option Expr))

/-- The further items of a list, each after a comma. Every round goes past a
comma, so there are fewer rounds than tokens. -/
def moreItems : Nat → Step (List Expr)
  | 0 => failure
  | rounds + 1 => do
    if (← peek) = some .comma then
      advance
      let item ← expression .lowest
      let items ← moreItems rounds
      return item.toList ++ items
    else
      return []

/-- The items of a list up to its closing token. An item that cannot be read is
left out. -/
def items (closing : Token) : Step (List Expr) := do
  if (← peek) = some closing then
    advance
    return []
  else
    let item ← expression .lowest
    let items ← moreItems expression ((← get).input.length + 1)
    expect closing
    return item.toList ++ items

/-- An operand: a literal, a name, a call, an operator with its operand, a group
in parentheses or an array. -/
def operand : Step (Option Expr) := do
  match ← peek with
  | some (.integer digits) =>
    advance
    match integerOfDigits? digits with
    | some n => return some (.integer n)
    | none =>
      report (.integerOutOfRange digits)
      return none
  | some (.string text) =>
    advance
    return some (.string text)
  | some (.regexp pattern) =>
    advance
    return some (.regexp pattern)
  | some (.boolean b) =>
    advance
    return some (.boolean b)
  | some (.identifier name) =>
    advance
    if (← peek) = some .leftParen then
      advance
      return some (.call name (← items expression .rightParen))
    else
      return some (.identifier name)
  | some .bang =>
    advance
    return (← expression .unary).map (.unary .not)
  | some .minus =>
    advance
    return (← expression .unary).map (.unary .negate)
  | some .leftParen =>
    advance
    let e ← expression .lowest
    expect .rightParen
    return e
  | some .leftBracket =>
    advance
    return some (.array (← items expression .rightBracket))
  | some (.illegal c) =>
    advance
    report (.illegalCharacter c)
    return none
  | none =>
    report .unexpectedEnd
    return none
  | some token =>
    report (.startsNoExpression token)
    return none

/-- The operators after an operand that bind tighter than `precedence`, folded to
the left. An operator whose right operand cannot be read is left out. Every
round goes past an operator, so there are fewer rounds than tokens. -/
def operators (precedence : Precedence) : Nat → Expr → Step (Option Expr)
  | 0, _ => failure
  | rounds + 1, left => do
    match (← peek).bind Token.binaryOp? with
    | none => return some left
    | some op =>
      if precedence < op.precedence then
        if ← descend then
          advance
          match ← expression op.precedence with
          | some right => operators precedence rounds (.binary op left right)
          | none => return some left
        else
          return none
      else
        return some left

/-- An operand with the operators after it that bind tighter than
`precedence`. -/
def chain (precedence : Precedence) : Step (Option Expr) := do
  if ← descend then
    match ← operand expression with
    | some left => operators expression precedence ((← get).input.length + 1) left
    | none => return none
  else
    return none

end Parts

/-! ## Expressions -/

/-- An expression whose operators all bind tighter than a precedence, read with
so many levels of recursion. -/
def expression : Nat → Precedence → Step (Option Expr)
  | 0, _ => failure
  | levels + 1, precedence => do
    let depth := (← get).depth
    let e ← chain (expression levels) precedence
    modify fun p => { p with depth }
    return e

/-- Reads an expression whose operators all bind tighter than a precedence. -/
def parseExpression (precedence : Precedence) (p : Parser) : Option Expr × Parser :=
  ((expression (maxDepth + 1) precedence).run p).getD (none, p)

/-- Reads the whole input as one expression. There is a tree whenever some part
could be read, unless nesting has gone past its limit. -/
def parse (p : Parser) : Option Expr × Parser :=
  let (e, p) := p.parseExpression .lowest
  if p.tooDeep then (none, p)
  else
    match p.input.head? with
    | none => (e, p)
    | some token => (e, p.note (.trailing token))

end Parser

/-- The tree of a text, or all errors in it. -/
def parse (text : String) : Except (List SyntaxError) Expr :=
  let (e, p) := (Parser.ofText text).parse
  match e, p.errors with
  | some e, [] => .ok e
  | none, [] => .error [.noExpression]
  | _, errors => .error errors

end StepCondition
