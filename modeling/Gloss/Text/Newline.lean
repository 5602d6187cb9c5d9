import Gloss.Text.Basic

/-! The ways of ending a line, read as one. -/

namespace Gloss.Text

/-- A text with each `\r\n` and each lone `\r` made a line feed. -/
def unifyBreaks : Text → Text
  | '\r' :: '\n' :: r => '\n' :: unifyBreaks r
  | '\r' :: r => '\n' :: unifyBreaks r
  | c :: r => c :: unifyBreaks r
  | [] => []

/-- A text with each `\r\n` made a line feed. A lone `\r` stays. -/
def joinReturns : Text → Text
  | '\r' :: '\n' :: r => '\n' :: joinReturns r
  | c :: r => c :: joinReturns r
  | [] => []

/-- A character that ends a line for a reader: a line feed, a carriage return, the separators of
lines and paragraphs, and the old marks of pages and records. -/
def isLineBreak (c : Char) : Bool :=
  let n := c.toNat
  (0x0a ≤ n && n ≤ 0x0d) || (0x1c ≤ n && n ≤ 0x1e) || n == 0x85 || n == 0x2028 || n == 0x2029

/-- The lines of a text between all its line breaks. -/
def lines (t : Text) : List Text :=
  pieces '\n' (t.map fun c => if isLineBreak c then '\n' else c)

end Gloss.Text
