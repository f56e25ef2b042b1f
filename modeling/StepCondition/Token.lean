import StepCondition.Text.Plain
import StepCondition.Text.Quoted

/-!
# Tokens of a condition

A condition is read as a list of tokens; the list's end is the condition's end.
A token has a spelling (`Token.spelling`), which for a literal is its content
without delimiters, and a form in which messages show it (`Token.display`).
-/

namespace StepCondition

/-- The smallest parts of a condition. -/
inductive Token where
  | integer (digits : String)
  | string (text : String)
  | regexp (pattern : String)
  | boolean (value : Bool)
  | identifier (name : String)
  | bang
  | minus
  | equal
  | notEqual
  | matching
  | notMatching
  | contains
  | and
  | or
  | dot
  | comma
  | leftParen
  | rightParen
  | leftBracket
  | rightBracket
  /-- A character that starts no token, or a delimiter that nothing closes. -/
  | illegal (c : Char)
  deriving DecidableEq, Repr, Inhabited

namespace Token

/-- The content of a token: a literal's text without delimiters, a name, or the
characters of a symbol. -/
def spelling : Token → List Char
  | integer digits => digits.toList
  | string text => text.toList
  | regexp pattern => pattern.toList
  | boolean b => Text.truth b
  | identifier name => name.toList
  | bang => ['!']
  | minus => ['-']
  | equal => ['=', '=']
  | notEqual => ['!', '=']
  | matching => ['=', '~']
  | notMatching => ['!', '~']
  | contains => ['@', '>']
  | and => ['&', '&']
  | or => ['|', '|']
  | dot => ['.']
  | comma => [',']
  | leftParen => ['(']
  | rightParen => [')']
  | leftBracket => ['[']
  | rightBracket => [']']
  | illegal c => [c]

/-- A token as messages show it: text in quotes, a pattern between slashes, and
every other token by its spelling. -/
def display : Token → String
  | string text => Text.quoted text
  | regexp pattern => "/" ++ pattern ++ "/"
  | t => String.ofList t.spelling

/-- The next token of a list as messages show it; the end of the list counts as
one. -/
def displayNext : Option Token → String
  | some t => t.display
  | none => "EOF"

end Token

end StepCondition
