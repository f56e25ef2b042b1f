/-!
# Numbers and truth values in plain text

Writing a whole number in decimal digits (`decimal`), the number that a row of
digits spells (`decimalValue`), and the words for truth values (`truth`).
-/

namespace StepCondition.Text

/-- The decimal text of a whole number, with a minus sign if it is negative. -/
def decimal (n : Int) : List Char :=
  if n < 0 then '-' :: Nat.toDigits 10 n.natAbs else Nat.toDigits 10 n.natAbs

/-- The number that a row of decimal digits spells. -/
def decimalValue (digits : List Char) : Nat :=
  digits.foldl (fun n c => n * 10 + (c.toNat - '0'.toNat)) 0

/-- The word for a truth value. -/
def truth (b : Bool) : List Char :=
  if b then ['t', 'r', 'u', 'e'] else ['f', 'a', 'l', 's', 'e']

end StepCondition.Text
