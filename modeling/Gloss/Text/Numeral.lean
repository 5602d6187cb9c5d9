import Gloss.Text.Blank
import Gloss.Text.Digit

/-! Whole numbers as a user types them. -/

namespace Gloss.Text

/-- Characters of the class `p`, with single underscores between some of them. -/
def isGrouped (p : Char → Bool) : Text → Bool
  | [] => false
  | [c] => p c
  | c :: d :: r => p c && (if d = '_' then isGrouped p r else isGrouped p (d :: r))

/-- What is said of a number with more digits than one may have. -/
def oversizedMessage (digits : Nat) : Text :=
  "Exceeds the limit (".toList ++ ofNat maxDigits ++
    " digits) for integer string conversion: value has ".toList ++
    ofNat digits ++
    " digits; use sys.set_int_max_str_digits() to increase the limit".toList

/-- A numeral without the zeros in front of its first other digit, and without the underscores among
them. -/
def dropLeadingZeros (t : Text) : Text :=
  if t.head? = some '0' then t.dropWhile fun c => c = '0' || c = '_' else t

/-- A numeral without its point and the zeros after it, of which there must be one. -/
def dropZeroFraction (t : Text) : Text :=
  match t.dropWhile (· ≠ '.') with
  | _ :: '0' :: rest => if rest.all (· = '0') then t.takeWhile (· ≠ '.') else t
  | _ => t

/-- The number, 1 or more, that a text writes: ASCII digits, perhaps after a plus sign and before a
point with zeros, with white space around. -/
def toCount? (t : Text) : Option Nat :=
  let body := t.trimBy isWhiteSpace
  let unsigned := if body.head? = some '+' then body.tail else body
  let digits := dropZeroFraction (dropLeadingZeros unsigned)
  if isGrouped (·.isDigit) digits && digits.countP (·.isDigit) ≤ maxDigits then
    some (decimalNumber (digits.filter (·.isDigit)))
  else none

end Gloss.Text
