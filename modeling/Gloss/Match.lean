import Gloss.Note.Basic
import Gloss.Text.Occurrence

/-! Where the keys of notes occur in a text. Keys are matched literally. -/

namespace Gloss

/-- The key of `note` stands in a text from `start` up to `stop`. -/
structure MatchSpan where
  note : Entry
  start : Nat
  stop : Nat
  deriving DecidableEq, Repr

namespace MatchSpan

/-- The column lies in the span or just after it. -/
def touches (s : MatchSpan) (column : Int) : Bool :=
  s.start ≤ column && column ≤ s.stop

end MatchSpan

namespace Entry

/-- The occurrences of the key of a note in a text. -/
def spans (note : Entry) (t : Text) : List MatchSpan :=
  (Text.occurrences note.key t).map fun start => ⟨note, start, start + note.key.length⟩

end Entry

/-- The occurrences of all keys, note by note. -/
def allSpans (notes : List Entry) (t : Text) : List MatchSpan :=
  notes.flatMap (·.spans t)

/-- The first span, in the order of the notes, that a column of a line touches. -/
def matchAt (notes : List Entry) (line : Text) (column : Int) : Option MatchSpan :=
  (allSpans notes line).find? (·.touches column)

end Gloss
