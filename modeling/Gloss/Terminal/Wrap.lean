import Gloss.Terminal.Marked
import Gloss.Text.Blank

/-! The lines of a text on a terminal. Words stand on a line as long as they fit; a word that is
wider than a line is cut if it is to be folded. -/

namespace Gloss.Terminal

/-- A text cut after each run of blanks. -/
def cutAfterBlanks : Text → List Text
  | [] => []
  | c :: r =>
    match cutAfterBlanks r with
    | [] => [[c]]
    | w :: ws =>
      if isBlank c && w.head?.any (!isBlank ·) then [c] :: w :: ws else (c :: w) :: ws

/-- The words of a text, each with the blanks after it, and the first one with those before it. -/
def spacedWords (t : Text) : List Text :=
  match cutAfterBlanks (t.dropWhile isBlank) with
  | [] => []
  | w :: ws => (t.takeWhile isBlank ++ w) :: ws

/-- Clusters put on lines of at most `limit` cells, `line` being the one begun and `used` its
cells. -/
def chopFrom (limit used : Nat) (line : Text) : List Cluster → List Text
  | [] => if used = 0 then [] else [line]
  | k :: ks =>
    if limit < used + k.width then line :: chopFrom limit k.width k.text ks
    else chopFrom limit (used + k.width) (line ++ k.text) ks

/-- A word cut into pieces of at most `limit` cells. -/
def chop (limit : Nat) (word : Text) : List Text :=
  chopFrom limit 0 [] (clusters word)

/-- A line as a list of lines, which has none if the line is empty. -/
def unlessEmpty (line : Text) : List Text :=
  if line = [] then [] else [line]

/-- The lines of words, `line` being the one begun and `used` its cells. A word goes on the line if
it fits without its blanks, and on the next line otherwise. -/
def fillLines (fold : Bool) (limit : Nat) (line : Text) (used : Nat) : List Text → List Text
  | [] => [line]
  | w :: rest =>
    let bare := width (w.trimEndBy isBlank)
    if used + bare ≤ limit then fillLines fold limit (line ++ w) (used + width w) rest
    else if fold && limit < bare then
      let cuts := chop limit w
      let last := cuts.getLast?.getD []
      unlessEmpty line ++ cuts.dropLast ++ fillLines fold limit last (width last) rest
    else unlessEmpty line ++ fillLines fold limit w (width w) rest

/-- A line without the blanks at its end that are more than `limit` characters from its start. -/
def dropExcess (limit : Nat) (line : Text) : Text :=
  line.take (max limit (line.trimEndBy isBlank).length)

/-- The lines of a text without line breaks. Together they are that text. -/
def filledLines (fold : Bool) (limit : Nat) (t : Text) : List Text :=
  match spacedWords t with
  | [] => [t]
  | words => fillLines fold limit [] 0 words

/-- The lines of a text on a terminal of `limit` cells. -/
def wrap (fold : Bool) (limit : Nat) (m : Marked) : List Marked :=
  (m.cut 1 (Text.pieces '\n' m.text)).flatMap fun line =>
    (line.cut 0 (filledLines fold limit line.text)).map (·.changeEnd (dropExcess limit))

/-- The lines of a text as a terminal of `limit` cells shows them. -/
def drawLines (limit : Nat) (m : Marked) : Except ColorError (List Text) :=
  (wrap true limit m).mapM fun line => do
    let line := line.changeEnd (truncate [] limit)
    line.check
    return line.crop limit

/-- The lines of a text without styles. -/
def plainLines (limit : Nat) (t : Text) : List Text :=
  (wrap true limit (.plain t)).map fun line => truncate [] limit line.text

end Gloss.Terminal
