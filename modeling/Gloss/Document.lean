import Gloss.Line

/-! A document with a table of its lines, and the two ways of naming a place in it: an offset into
the whole text, or a line and a character in that line. -/

namespace Gloss

/-- A place in a document: a line and a character in it, both counted from 0. -/
structure Position where
  line : Nat
  character : Nat
  deriving DecidableEq, Repr

/-- The stretch of a document from one position up to another. -/
structure Range where
  start : Position
  stop : Position
  deriving DecidableEq, Repr

/-- A document of `count` lines has no line `line`. -/
structure PositionError where
  line : Int
  count : Nat
  deriving DecidableEq, Repr

def PositionError.message (e : PositionError) : Text :=
  "Line ".toList ++ Text.ofInt e.line ++ " out of range (0..".toList ++ Text.ofNat (e.count - 1) ++
    [')']

/-- The number of members of the sorted `table` that are at most `x`, which lies between `low` and
`high`. -/
def upperBound (table : Array Nat) (x low high : Nat) (le_size : high ≤ table.size) : Nat :=
  if h : low < high then
    let mid := (low + high) / 2
    have : mid < table.size := by omega
    if x < table[mid] then upperBound table x low mid (by omega)
    else upperBound table x (mid + 1) high le_size
  else low
termination_by high - low

/-- The offsets after the line feeds of `t`, `t` standing at the offset `here`. -/
def startsAfterBreaks (here : Nat) : Text → List Nat
  | [] => []
  | c :: r =>
    if c = '\n' then (here + 1) :: startsAfterBreaks (here + 1) r
    else startsAfterBreaks (here + 1) r

/-- The offsets at which the lines of a text start. -/
def lineTable (t : Text) : List Nat :=
  0 :: startsAfterBreaks 0 t

/-- A text with the table of its line starts. -/
structure Document where
  text : Text
  starts : Array Nat
  starts_eq : starts = (lineTable text).toArray

namespace Document

def ofText (t : Text) : Document :=
  ⟨t, _, rfl⟩

def lineCount (d : Document) : Nat :=
  d.starts.size

/-- The offset at which line `n` starts. -/
def startOf (d : Document) (n : Nat) : Nat :=
  d.starts.getD n 0

/-- The offset of the line feed that ends line `n`, or the end of the text for the last line. -/
def stopOf (d : Document) (n : Nat) : Nat :=
  if n + 1 < d.lineCount then d.startOf (n + 1) - 1 else d.text.length

/-- The text of line `n` without its line break. -/
def lineText (d : Document) (n : Nat) : Text :=
  Text.dropReturn (d.text.slice (d.startOf n) (d.stopOf n))

/-- The line that `n` names. -/
def line? (d : Document) (n : Int) : Except PositionError Nat :=
  if 0 ≤ n ∧ n < d.lineCount then .ok n.toNat else .error ⟨n, d.lineCount⟩

/-- The text of a line, without its line break. -/
def lineAt (d : Document) (n : Int) : Except PositionError Text := do
  let n ← d.line? n
  return d.lineText n

/-- The offset of a character in a line; a character outside the line stands for its nearest
end. -/
def offsetAt (d : Document) (n character : Int) : Except PositionError Nat := do
  let n ← d.line? n
  return d.startOf n + min character.toNat (d.lineText n).length

/-- The position of an offset; an offset outside the text stands for its nearest end. -/
def positionAt (d : Document) (offset : Int) : Position :=
  let here := min offset.toNat d.text.length
  let line := upperBound d.starts here 0 d.starts.size (Nat.le_refl _) - 1
  ⟨line, here - d.startOf line⟩

def rangeOf (d : Document) (start stop : Int) : Range :=
  ⟨d.positionAt start, d.positionAt stop⟩

end Document

end Gloss
