import Gloss.Terminal.Style
import Gloss.Terminal.Width

/-! Text with styles on stretches of it. Where the text is cut its stretches are cut with it, and
one of which no character is left is given up. A terminal measures the segments of a line, which lie
between the ends of stretches, each by itself. -/

namespace Gloss.Terminal

/-- The characters of a text from `start` up to, and without, `stop`, with the words of a style if
they have one. -/
structure Stretch where
  start : Nat
  stop : Nat
  style : Option Text
  deriving DecidableEq, Repr

/-- A text and its stretches, in the order in which their styles are put on. -/
structure Marked where
  text : Text
  stretches : List Stretch
  deriving DecidableEq, Repr

namespace Stretch

/-- What a stretch has of the characters from `start` up to, and without, `stop`, if any. -/
def within? (start stop : Nat) (s : Stretch) : Option Stretch :=
  let first := max s.start start
  let last := min s.stop stop
  if first < last then some { s with start := first - start, stop := last - start } else none

/-- A stretch in a text that ends after `n` characters, if it begins before that. -/
def shorten? (n : Nat) (s : Stretch) : Option Stretch :=
  if s.start < n then some { s with stop := min s.stop n } else none

/-- A stretch in a text with `n` more characters at its front. -/
def shift (n : Nat) (s : Stretch) : Stretch :=
  { s with start := s.start + n, stop := s.stop + n }

end Stretch

namespace Marked

def plain (t : Text) : Marked := ⟨t, []⟩

/-! ### Cutting -/

/-- The characters from `start` up to, and without, `stop`. -/
def slice (m : Marked) (start stop : Nat) : Marked :=
  ⟨Text.slice m.text start stop, m.stretches.filterMap (·.within? start stop)⟩

/-- The slices as long as the given pieces, the first at `start` and `gap` characters between each
and the next. -/
def slicesFrom (m : Marked) (gap start : Nat) : List Text → List Marked
  | [] => []
  | p :: ps => m.slice start (start + p.length) :: m.slicesFrom gap (start + p.length + gap) ps

/-- A text cut into the given pieces of it, with `gap` characters between each and the next. If it
is all one piece, the stretches without characters stay too. -/
def cut (m : Marked) (gap : Nat) (pieces : List Text) : List Marked :=
  match pieces with
  | [_] => [m]
  | _ => m.slicesFrom gap 0 pieces

/-- A text of which `f` changes the end. Its stretches become shorter with it. -/
def changeEnd (f : Text → Text) (m : Marked) : Marked :=
  let t := f m.text
  let shorter := t.length < m.text.length
  ⟨t, if shorter then m.stretches.filterMap (·.shorten? t.length) else m.stretches⟩

/-- A text after `n` spaces. -/
def indent (n : Nat) (m : Marked) : Marked :=
  ⟨spaces n ++ m.text, m.stretches.map (·.shift n)⟩

/-! ### Drawing -/

/-- Reads the styles. A style that does not exist has no effect, but the colors in it have to be
readable. -/
def check (m : Marked) : Except ColorError Unit :=
  m.stretches.forM fun s =>
    match s.style.map Style.ofText with
    | some (.error (.color e)) => .error e
    | _ => .ok ()

theorem check_plain (t : Text) : (plain t).check = .ok () := rfl

/-- The characters of a text that begins at `start`, cut at the given ends. -/
def segmentsFrom (ends : List Nat) (start : Nat) : Text → List Text
  | [] => []
  | c :: r =>
    match segmentsFrom ends (start + 1) r with
    | [] => [[c]]
    | s :: ss => if start + 1 ∈ ends then [c] :: s :: ss else (c :: s) :: ss

/-- The text between each end of a stretch and the next. -/
def segments (m : Marked) : List Text :=
  segmentsFrom (m.stretches.flatMap fun s => [s.start, s.stop]) 0 m.text

/-- The cells that the segments of a text take together. -/
def cells (m : Marked) : Nat :=
  m.segments.foldr (fun s n => width s + n) 0

/-- As much of segments as fits into `limit` cells, of which there is one at least. -/
def cropSegments (limit : Nat) : List Text → Text
  | [] => []
  | s :: ss =>
    if width s < limit then s ++ cropSegments (limit - width s) ss else truncate [] limit s

/-- As much of a line as fits into `limit` cells. -/
def crop (limit : Nat) (m : Marked) : Text :=
  if limit < m.cells then cropSegments limit m.segments else m.text

/-- A line in `limit` cells, spaces being put after a shorter one. -/
def fill (limit : Nat) (m : Marked) : Text :=
  m.crop limit ++ spaces (limit - m.cells)

end Marked

end Gloss.Terminal
