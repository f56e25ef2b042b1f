import StepCondition.Text.Hex
import StepCondition.Unicode.Printable

/-!
# Quoted text

A text between double quotes, with its quotes, backslashes and whatever does not
show in escapes (`quoted`). A single quote needs none.
-/

namespace StepCondition.Text

open Unicode

/-- A character as it stands between double quotes. A character that does not
show, or that would join the one before it, is written by its number. -/
def quotedChar (c : Char) : List Char :=
  if c = '"' then ['\\', '"']
  else if c = '\\' then ['\\', '\\']
  else if c = '\t' then ['\\', 't']
  else if c = '\r' then ['\\', 'r']
  else if c = '\n' then ['\\', 'n']
  else if c = '\x00' then ['\\', '0']
  else if isGraphemeExtend c || !isPrintable c then
    ['\\', 'u', '\x7b'] ++ hexDigits c.toNat ++ ['\x7d']
  else [c]

/-- A text between double quotes. -/
def quoted (text : String) : String :=
  String.ofList ('"' :: text.toList.flatMap quotedChar ++ ['"'])

end StepCondition.Text
