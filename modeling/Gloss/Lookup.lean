import Gloss.Document
import Gloss.Match
import Gloss.Path

/-! The note under the cursor: what it says, and where it is defined. -/

namespace Gloss

/-- What a reader sees of the note under the cursor. -/
structure Hover where
  key : Text
  text : Text
  provenance : Text
  range : Range
  deriving DecidableEq, Repr

/-- Where the note under the cursor is defined. -/
structure Definition where
  key : Text
  source : Text
  span : LineSpan
  deriving DecidableEq, Repr

/-- The fence around the text of a note. -/
def codeFence : Text := "```".toList

/-- The note in a fenced block, and its provenance below. -/
def Hover.toMarkdown (h : Hover) : Text :=
  codeFence ++ "text\n".toList ++ h.text ++ ['\n'] ++ codeFence ++ "\n\n*from: `".toList ++
    h.provenance ++ "`*".toList

/-- The span of a key that the cursor touches, and the line on which it lies. -/
def cursorMatch (notes : List Entry) (d : Document) (line column : Int) :
    Except PositionError (Option (Nat × MatchSpan)) := do
  let n ← d.line? line
  return (matchAt notes (d.lineText n) column).map (n, ·)

def Hover.ofMatch (cwd : Location) (root : Option Path) (line : Nat) (s : MatchSpan) : Hover where
  key := s.note.key
  text := s.note.value
  provenance := shownSource cwd root s.note.source
  range := ⟨⟨line, s.start⟩, ⟨line, s.stop⟩⟩

def Definition.ofMatch (s : MatchSpan) : Definition where
  key := s.note.key
  source := s.note.source
  span := s.note.definition

/-- The note under the cursor, with its source as seen from the workspace root. -/
def hoverAt (cwd : Location) (root : Option Path) (notes : List Entry) (d : Document)
    (line column : Int) : Except PositionError (Option Hover) := do
  let m ← cursorMatch notes d line column
  return m.map fun m => Hover.ofMatch cwd root m.1 m.2

/-- Where the note under the cursor is defined. -/
def definitionAt (notes : List Entry) (d : Document) (line column : Int) :
    Except PositionError (Option Definition) := do
  let m ← cursorMatch notes d line column
  return m.map fun m => Definition.ofMatch m.2

end Gloss
