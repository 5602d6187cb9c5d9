import Gloss.Text.Basic

/-! The white space of Unicode, the words between it, and the two ways of trimming by it: `strip`
for settings, and `trim` for notes, which also removes byte order marks. -/

namespace Gloss

/-- The characters that count as white space: those of the class `White_Space` of Unicode and the
four separators U+001C to U+001F. -/
def isBlank (c : Char) : Bool :=
  let n := c.toNat
  (0x09 ≤ n && n ≤ 0x0d) || (0x1c ≤ n && n ≤ 0x20) || n == 0x85 || n == 0xa0 || n == 0x1680 ||
    (0x2000 ≤ n && n ≤ 0x200a) || n == 0x2028 || n == 0x2029 || n == 0x202f || n == 0x205f ||
    n == 0x3000

/-- A character of the class `White_Space` of Unicode. -/
def isWhiteSpace (c : Char) : Bool :=
  isBlank c && !(0x1c ≤ c.toNat && c.toNat ≤ 0x1f)

/-- The byte order mark, which some editors write at the start of a file. -/
def byteOrderMark : Char := '\ufeff'

/-- White space or a byte order mark. -/
def isPadding (c : Char) : Bool :=
  isBlank c || c == byteOrderMark

namespace Text

/-- A text without the white space at its ends. -/
def strip (t : Text) : Text :=
  t.trimBy isBlank

/-- A text without the white space and byte order marks at its ends. -/
def trim (t : Text) : Text :=
  t.trimBy isPadding

/-- The words of a text: the stretches between white space that are not empty. -/
def words (t : Text) : List Text :=
  (pieces ' ' (t.map fun c => if isBlank c then ' ' else c)).filter (· ≠ [])

end Text

end Gloss
