import StepCondition.Token
import StepCondition.Unicode.Alphabetic

/-!
# From text to tokens

`tokens` reads a text as tokens. Between tokens stand blanks of ASCII and
comments, which run from `#` to the end of their line (`skipLayout`). What comes
first after them decides the token (`scanToken`), and the token takes as much
text as it can. Reading never fails: what starts no token is an illegal one.

* `scanToken_length_lt`: a token leaves less text than it was cut from, so
  reading ends.
-/

namespace StepCondition

/-- The blanks that may stand between tokens. -/
def isLayout (c : Char) : Bool :=
  c = ' ' || c = '\t' || c = '\n' || c = '\x0c' || c = '\r'

mutual

/-- The text from the first character that is neither a blank nor in a
comment. -/
def skipLayout : List Char → List Char
  | [] => []
  | c :: cs =>
    if isLayout c then skipLayout cs else if c = '#' then skipComment cs else c :: cs

/-- `skipLayout` from within a comment. -/
def skipComment : List Char → List Char
  | [] => []
  | c :: cs => if c = '\n' then skipLayout cs else skipComment cs

end

/-- Whether a name can start with a character. -/
def startsName (c : Char) : Bool := Unicode.isAlphabetic c || c = '_'

/-- Whether a name can go on with a character. -/
def continuesName (c : Char) : Bool := Unicode.isAlphanumeric c || c = '_'

namespace Token

/-- The token that a name spells: one of the truth values or an identifier. -/
def ofName (name : List Char) : Token :=
  if name = Text.truth true then .boolean true
  else if name = Text.truth false then .boolean false
  else .identifier (String.ofList name)

/-- The symbol that starts with `c`, if one does, and the text after it. -/
def symbol? : Char → List Char → Option (Token × List Char)
  | '=', '=' :: cs => some (.equal, cs)
  | '=', '~' :: cs => some (.matching, cs)
  | '!', '=' :: cs => some (.notEqual, cs)
  | '!', '~' :: cs => some (.notMatching, cs)
  | '!', cs => some (.bang, cs)
  | '&', '&' :: cs => some (.and, cs)
  | '|', '|' :: cs => some (.or, cs)
  | '@', '>' :: cs => some (.contains, cs)
  | '-', cs => some (.minus, cs)
  | '.', cs => some (.dot, cs)
  | ',', cs => some (.comma, cs)
  | '(', cs => some (.leftParen, cs)
  | ')', cs => some (.rightParen, cs)
  | '[', cs => some (.leftBracket, cs)
  | ']', cs => some (.rightBracket, cs)
  | _, _ => none

end Token

/-- Reads the rest of a literal up to its closing delimiter. A literal that
nothing closes takes all the text and is illegal. -/
def scanDelimited (token : String → Token) (delimiter : Char) (cs : List Char) :
    Token × List Char :=
  match cs.dropWhile (· ≠ delimiter) with
  | [] => (.illegal delimiter, [])
  | _ :: rest => (token (String.ofList (cs.takeWhile (· ≠ delimiter))), rest)

/-- Reads the token that starts with `c`, and returns the text after it. -/
def scanToken (c : Char) (cs : List Char) : Token × List Char :=
  if c = '"' || c = '\'' then scanDelimited .string c cs
  else if c = '/' then scanDelimited .regexp c cs
  else if startsName c then (.ofName (c :: cs.takeWhile continuesName), cs.dropWhile continuesName)
  else if c.isDigit then
    (.integer (String.ofList (c :: cs.takeWhile Char.isDigit)), cs.dropWhile Char.isDigit)
  else (Token.symbol? c cs).getD (.illegal c, cs)

/-! ## Reading ends -/

mutual

theorem skipLayout_length_le : ∀ cs : List Char, (skipLayout cs).length ≤ cs.length
  | [] => Nat.le_refl _
  | c :: cs => by
    rw [skipLayout]
    split
    · exact Nat.le_succ_of_le (skipLayout_length_le cs)
    · split
      · exact Nat.le_succ_of_le (skipComment_length_le cs)
      · exact Nat.le_refl _

theorem skipComment_length_le : ∀ cs : List Char, (skipComment cs).length ≤ cs.length
  | [] => Nat.le_refl _
  | c :: cs => by
    rw [skipComment]
    split
    · exact Nat.le_succ_of_le (skipLayout_length_le cs)
    · exact Nat.le_succ_of_le (skipComment_length_le cs)

end

theorem scanDelimited_length_le (token : String → Token) (delimiter : Char) (cs : List Char) :
    (scanDelimited token delimiter cs).2.length ≤ cs.length := by
  have h := (List.dropWhile_suffix (· ≠ delimiter) (l := cs)).length_le
  unfold scanDelimited
  split
  · exact Nat.zero_le _
  · next heq => rw [heq] at h; exact Nat.le_of_succ_le h

theorem symbol?_length_le {c : Char} {cs : List Char} {r : Token × List Char}
    (h : Token.symbol? c cs = some r) : r.2.length ≤ cs.length := by
  unfold Token.symbol? at h
  split at h <;> simp at h <;> subst h <;> simp

/-- A token leaves no more text than follows its first character. -/
theorem scanToken_length_le (c : Char) (cs : List Char) :
    (scanToken c cs).2.length ≤ cs.length := by
  unfold scanToken
  split
  · exact scanDelimited_length_le ..
  split
  · exact scanDelimited_length_le ..
  split
  · exact (List.dropWhile_suffix _).length_le
  split
  · exact (List.dropWhile_suffix _).length_le
  cases h : Token.symbol? c cs with
  | none => exact Nat.le_refl _
  | some r => exact symbol?_length_le h

/-- A token leaves less text than it was cut from. -/
theorem scanToken_length_lt {cs rest : List Char} {c : Char} (h : skipLayout cs = c :: rest) :
    (scanToken c rest).2.length < cs.length := by
  have hle := skipLayout_length_le cs
  rw [h, List.length_cons] at hle
  exact Nat.lt_of_le_of_lt (scanToken_length_le c rest) hle

/-- The tokens of a text. -/
def tokens (cs : List Char) : List Token :=
  match h : skipLayout cs with
  | [] => []
  | c :: rest =>
    have : (scanToken c rest).2.length < cs.length := scanToken_length_lt h
    (scanToken c rest).1 :: tokens (scanToken c rest).2
termination_by cs.length

/-- The next token of a text, if there is one left, and the text after it. -/
def nextToken (cs : List Char) : Option Token × List Char :=
  match skipLayout cs with
  | [] => (none, [])
  | c :: rest => ((scanToken c rest).1, (scanToken c rest).2)

end StepCondition
