import Gloss.Terminal.Fit
import Gloss.Terminal.Wrap
import Gloss.Text.Newline

/-! Tables in a terminal: a title, a heavy head and light rows. Columns are as wide as their widest
cell if all of them fit on a line, and the title is wrapped to the width of the table and
centred. -/

namespace Gloss.Terminal

/-! ### Titles -/

/-- A line centred in `limit` cells. Of an odd number of free cells, the smaller half is on the
left. -/
def centre (limit : Nat) (line : Marked) : Marked :=
  let line := (line.changeEnd (·.trimEndBy isBlank)).changeEnd (truncate [] limit)
  line.indent ((limit - width line.text) / 2)

/-- The lines of a title over a table of `limit` cells. -/
def titleLines (limit : Nat) (title : Marked) : Except ColorError (List Text) :=
  (wrap true limit title).mapM fun line => do
    let line := centre limit line
    line.check
    return line.text

/-! ### Rows -/

/-- A column: its head, whether its cells are set to the right, and whether it can be narrower than
its widest cell. -/
structure Column where
  head : Text
  toRight : Bool := false
  shrinks : Bool := true

/-- A table: its title, its columns, and the cells of its rows. -/
structure Table where
  title : Marked
  columns : List Column
  rows : List (List Marked)

/-- The characters of a frame: left, horizontal, between and right. -/
structure Frame where
  left : Char
  line : Char
  cross : Char
  right : Char

/-- The widest line of a cell. -/
def cellWidth (cell : Marked) : Nat :=
  ((Text.lines cell.text).map width).foldl max 0

/-- A line of a cell, set to its side in `limit` cells. -/
def setLine (toRight : Bool) (limit : Nat) (line : Marked) : Marked :=
  if toRight then
    let line := (line.changeEnd (·.trimEndBy isBlank)).changeEnd (truncate ['…'] limit)
    line.indent (limit - width line.text)
  else line.changeEnd fun t => padEnd limit (truncate ['…'] limit t)

/-- The lines of a cell in a column of the given width. A line is filled once more after it was set:
its segments can take less room than the whole of it, and a space after a joiner takes none. -/
def cellLines (column : Column × Nat) (cell : Marked) : Except ColorError (List Text) :=
  (wrap false column.2 cell).mapM fun line => do
    let line := setLine column.1.toRight column.2 line
    line.check
    return line.fill column.2

/-- A rule across columns of the given widths. -/
def rule (f : Frame) (widths : List Nat) : Text :=
  f.left :: Text.join [f.cross] (widths.map fun w => List.replicate (w + 2) f.line) ++ [f.right]

/-- A line across the table, with `bar` around the padded cells. -/
def barLine (bar : Char) (cells : List Text) : Text :=
  bar :: Text.join [bar] (cells.map fun c => ' ' :: c ++ [' ']) ++ [bar]

/-- The lines of a row. It has as many as its cell of the most lines. -/
def rowLines (bar : Char) (columns : List (Column × Nat)) (cells : List Marked) :
    Except ColorError (List Text) := do
  let split ← (columns.zip cells).mapM fun (c, cell) => cellLines c cell
  let height := (split.map List.length).foldl max 1
  return (List.range height).map fun i =>
    barLine bar (List.zipWith (fun c lines => lines.getD i (spaces c.2)) columns split)

namespace Table

/-- The cells that a line of the table has beside those of its cells: a bar before each column and
after the last. -/
def barCount (t : Table) : Nat :=
  t.columns.length + 1

/-- The width of each column in a table of at most `limit` cells, as the widest cell with a space on
either side asks for it. -/
def extents (limit : Nat) (t : Table) : List Extent :=
  t.columns.zipIdx.map fun (c, i) =>
    let widest := (t.rows.map fun row => cellWidth (row.getD i (.plain []))).foldl max
      (cellWidth (.plain c.head))
    ⟨min (limit - t.barCount) (widest + 2), c.shrinks⟩

/-- The width of each column between its spaces in a table of at most `limit` cells. -/
def widths (limit : Nat) (t : Table) : List Nat :=
  (Extent.fit (limit - t.barCount) (t.extents limit)).map fun e => e.cells - 2

/-- The lines of a table of at most `limit` cells. -/
def lines (limit : Nat) (t : Table) : Except ColorError (List Text) := do
  let widths := t.widths limit
  let columns := t.columns.zip widths
  let top := rule ⟨'┏', '━', '┳', '┓'⟩ widths
  let title ← titleLines top.length t.title
  let head ← rowLines '┃' columns (t.columns.map fun c => .plain c.head)
  let rows ← t.rows.mapM (rowLines '│' columns)
  return title ++
    top ::
    head ++
    rule ⟨'┡', '━', '╇', '┩'⟩ widths ::
    rows.flatten ++
    [rule ⟨'└', '─', '┴', '┘'⟩ widths]

end Table

end Gloss.Terminal
