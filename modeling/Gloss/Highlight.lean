import Gloss.Document
import Gloss.Match

/-! The keys of notes marked in a document. -/

namespace Gloss

/-- A marked stretch of a document, by its offsets and by its positions. -/
structure Decoration where
  key : Text
  start : Nat
  stop : Nat
  range : Range
  deriving DecidableEq, Repr

/-- The marked stretches of a document, and the color to mark them with. -/
structure Highlight where
  color : Text
  decorations : List Decoration
  deriving DecidableEq, Repr

/-- The radius of the corners of a marked stretch. -/
def Highlight.borderRadius (_ : Highlight) : Text := "2px".toList

def Decoration.ofSpan (d : Document) (s : MatchSpan) : Decoration where
  key := s.note.key
  start := s.start
  stop := s.stop
  range := d.rangeOf s.start s.stop

/-- The occurrences of the keys of `notes` in a document. -/
def decorations (notes : List Entry) (d : Document) : List Decoration :=
  (allSpans notes d.text).map (Decoration.ofSpan d)

end Gloss
