/-!
# What can be wrong with a regular expression

A fault is a mistake in the text of a regular expression or a limit that it goes
past.
-/

namespace StepCondition.Pattern

/-- A reason to refuse a regular expression. -/
inductive Fault where
  | classUnclosed
  | classRangeInvalid
  | classRangeNotLiteral
  | classEscapeInvalid
  | countEmpty
  | countOutOfRange
  | countUnclosed
  | countRangeInvalid
  | escapeUnexpectedEnd
  | escapeUnrecognized
  | hexDigitInvalid
  | hexNotACharacter
  | flagDuplicate
  | flagUnexpectedEnd
  | flagUnrecognized
  | flagNegationDangling
  | groupNameInvalid
  | groupNameDuplicate (name : String)
  | groupUnclosed
  | groupUnopened
  | repetitionMissing
  | boundaryUnclosed
  | boundaryUnrecognized
  | backreference
  | lookAround
  | propertyInvalid
  | propertyUnknown
  | unicodeNotAllowed
  | invalidText
  | nestingTooDeep (limit : Nat)
  | tooLarge (limit : Nat)
  deriving DecidableEq, Repr

namespace Fault

/-- What is wrong. -/
def description : Fault → String
  | classUnclosed => "unclosed character class"
  | classRangeInvalid => "invalid character class range, the start must be <= the end"
  | classRangeNotLiteral => "invalid range boundary, must be a literal"
  | classEscapeInvalid => "invalid escape sequence found in character class"
  | countEmpty => "repetition quantifier expects a valid decimal"
  | countOutOfRange => "decimal literal invalid"
  | countUnclosed => "unclosed counted repetition"
  | countRangeInvalid =>
    "invalid repetition count range, the start must be <= the end"
  | escapeUnexpectedEnd =>
    "incomplete escape sequence, reached end of pattern prematurely"
  | escapeUnrecognized => "unrecognized escape sequence"
  | hexDigitInvalid => "invalid hexadecimal digit"
  | hexNotACharacter => "hexadecimal literal is not a Unicode scalar value"
  | flagDuplicate => "duplicate flag"
  | flagUnexpectedEnd => "expected flag but got end of regex"
  | flagUnrecognized => "unrecognized flag"
  | flagNegationDangling => "dangling flag negation operator"
  | groupNameInvalid => "invalid capture group name"
  | groupNameDuplicate name => "duplicate capture group name " ++ name
  | groupUnclosed => "unclosed group"
  | groupUnopened => "unopened group"
  | repetitionMissing => "repetition operator missing expression"
  | boundaryUnclosed => "special word boundary assertion is unclosed"
  | boundaryUnrecognized => "unrecognized special word boundary assertion"
  | backreference => "backreferences are not supported"
  | lookAround =>
    "look-around, including look-ahead and look-behind, is not supported"
  | propertyInvalid => "invalid Unicode character class"
  | propertyUnknown => "Unicode property not found"
  | unicodeNotAllowed => "Unicode not allowed here"
  | invalidText => "pattern can match invalid UTF-8"
  | nestingTooDeep limit =>
    "exceeds the maximum number of nested parentheses/brackets " ++ toString limit
  | tooLarge limit => "Compiled regex exceeds size limit of " ++ toString limit ++ " bytes."

/-- The message for a fault. A mistake in the text is told from a limit on what
the text stands for. -/
def message : Fault → String
  | tooLarge limit => description (tooLarge limit)
  | fault => "regex parse error:\nerror: " ++ fault.description

end Fault

end StepCondition.Pattern
