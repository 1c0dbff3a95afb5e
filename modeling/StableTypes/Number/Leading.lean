import StableTypes.Number.Decimal
import StableTypes.Text.Blank

/-!
# Numbers at the start of a text

A lenient reading of whole numbers: blanks, at most one sign and at least one
decimal digit count, and whatever follows the digits is passed over.
-/

namespace StableTypes.Number

/-- The number that unsigned characters start with. -/
def leadingDigits? (negative : Bool) (cs : List Char) : Option Number :=
  let digits := cs.takeWhile Char.isDigit
  if digits.isEmpty then none else some (ofDecimal negative (digitsValue digits) 0)

/-- The number that characters without leading blanks start with. -/
def signedDigits? : List Char → Option Number
  | '-' :: rest => leadingDigits? true rest
  | '+' :: rest => leadingDigits? false rest
  | cs => leadingDigits? false cs

/-- The whole number that a text starts with. -/
def leading? (text : String) : Option Number :=
  signedDigits? (text.toList.dropWhile Text.isBlank)

end StableTypes.Number
