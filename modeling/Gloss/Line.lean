import Gloss.Text.Basic

/-! Lines of a text: where the line around an offset starts and ends. Lines end at a line feed; a
carriage return before it belongs to the break. -/

namespace Gloss

/-- A whole line: its number from 0, the offset of its first character and the offset after its
last, which comes before the line break. -/
structure LineSpan where
  line : Nat
  start : Nat
  stop : Nat
  deriving DecidableEq, Repr

namespace Text

/-- The offset just after the last line feed of a text, or 0. -/
def lastLineStart (t : Text) : Nat :=
  t.length - (t.reverse.takeWhile (· ≠ '\n')).length

/-- The place that an offset names in a text of `length` characters: a negative one counts from the
end, and none lies outside. -/
def place (length : Nat) (offset : Int) : Nat :=
  if offset < 0 then (length + offset).toNat else min offset.toNat length

end Text

/-- The line of `t` around `offset`. -/
def LineSpan.around (t : Text) (offset : Int) : LineSpan :=
  let here := Text.place t.length offset
  let start := Text.lastLineStart (t.take here)
  let stop := here + ((t.drop here).takeWhile (· ≠ '\n')).length
  { line := (t.take start).count '\n'
    start
    stop := start + (Text.dropReturn (t.slice start stop)).length }

theorem Text.place_le (n : Nat) (o : Int) : Text.place n o ≤ n := by
  unfold Text.place; split <;> omega

end Gloss
