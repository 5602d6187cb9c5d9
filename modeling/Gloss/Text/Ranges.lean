import Gloss.Text.Basic

/-! Classes of characters that are written as ranges of code points. -/

namespace Gloss.Text

/-- The code point of a character lies in one of the ranges. Both ends belong to a range. -/
def inRanges (ranges : List (Nat × Nat)) (c : Char) : Bool :=
  ranges.any fun r => r.1 ≤ c.toNat && c.toNat ≤ r.2

end Gloss.Text
