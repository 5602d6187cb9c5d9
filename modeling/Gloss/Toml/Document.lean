import Gloss.Text.Newline
import Gloss.Toml.Term

/-! TOML documents: entries under table headers, one a line. A table is declared once, an entry is
given once, and what is complete is not added to. -/

namespace Gloss.Toml

/-- A document while it is read: its table so far, the keys that lead to complete values, the tables
declared by a header or by a dotted key of an earlier section, the tables opened by dotted keys of
this section, and the header of this section. -/
structure Draft where
  table : Table
  frozen : Frozen
  declared : List Key
  opened : List Key
  header : Key

namespace Draft

def empty : Draft := ⟨[], [], [], [], []⟩

/-- The draft at the end of a section. -/
def endSection (d : Draft) : Draft :=
  { d with declared := d.opened ++ d.declared, opened := [] }

/-- The draft after the header of a table. -/
def declareTable (d : Draft) (k : Key) : Except Error Draft :=
  let d := d.endSection
  if d.declared.contains k ∨ d.frozen.covers k then .error .malformed
  else
    match d.table.alter true some k with
    | none => .error .malformed
    | some table => .ok { d with table, declared := k :: d.declared, header := k }

/-- The draft after the header of one more table of an array. What was said about the keys into
the array holds for its earlier tables only. -/
def declareItem (d : Draft) (k : Key) : Except Error Draft :=
  let d := d.endSection
  if d.frozen.covers k then .error .malformed
  else
    match d.table.alter true (·.pushTable? (k.getLast?.getD [])) k.dropLast with
    | none => .error .malformed
    | some table =>
      .ok { d with
        table
        frozen := d.frozen.filter (!k.isPrefixOf ·)
        declared := k :: d.declared.filter (!k.isPrefixOf ·)
        header := k }

/-- The tables on the way to the last name of a dotted key. -/
def waypoints (header k : Key) : List Key :=
  (List.range (k.length - 1)).map fun i => header ++ k.take (i + 1)

/-- The draft after an entry. -/
def addEntry (d : Draft) (k : Key) (v : Value) : Except Error Draft :=
  let parent := d.header ++ k.dropLast
  let way := waypoints d.header k
  if way.any d.declared.contains ∨ d.frozen.covers parent then .error .malformed
  else
    match d.table.alter true (·.insert? (k.getLast?.getD []) v) parent with
    | none => .error .malformed
    | some table =>
      .ok { d with
        table
        frozen := if v.isContainer then (d.header ++ k) :: d.frozen else d.frozen
        opened := way ++ d.opened }

end Draft

/-- The key of a header, `s` standing after its opening brackets. -/
def readHeader (close s : Text) : Except Error (Read s Key) := do
  let key ← readKey (skipSpace s)
  match Text.after? close key.rest with
  | some rest => Read.leaving s key.value rest
  | none => throw .malformed

/-- The draft after the header or entry that `s` begins with. -/
def readStatement (d : Draft) (s : Text) : Except Error (Read s Draft) := do
  match Text.after? ['[', '['] s, Text.after? ['['] s with
  | some r, _ =>
    let key ← readHeader [']', ']'] r
    Read.leaving s (← d.declareItem key.value) key.rest
  | none, some r =>
    let key ← readHeader [']'] r
    Read.leaving s (← d.declareTable key.value) key.rest
  | none, none =>
    let entry ← readEntry maxDepth s
    return ⟨← d.addEntry entry.value.1 entry.value.2, entry.rest, entry.shorter⟩

/-- The draft after the line that `s` begins with, up to a comment or the end of the line. -/
def readLine (d : Draft) (s : Text) : Except Error (Draft × Left s) := do
  if s.head? = some '#' then return (d, ⟨s, Nat.le_refl _⟩)
  let read ← readStatement d s
  return (read.value, ⟨read.rest, read.rest_le⟩)

/-- The table of the document that goes on with `s`. -/
def readLines (d : Draft) (s : Text) : Except Error Table :=
  match h : skipSpace s with
  | [] => .ok d.table
  | c :: r =>
    have := length_lt_of_skipSpace h
    if c = '\n' then readLines d r
    else
      match readLine d (skipSpace s) with
      | .error e => .error e
      | .ok (d, after) =>
        match hc : skipComment (skipSpace after.rest) with
        | .error e => .error e
        | .ok [] => .ok d.table
        | .ok (e :: q) =>
          have : q.length < s.length := by
            have h1 := length_le_of_skipComment hc
            have h2 := length_skipSpace_le after.rest
            have h3 := after.le
            have h4 := length_skipSpace_le s
            simp only [List.length_cons] at h1
            omega
          if e = '\n' then readLines d q else .error .malformed
termination_by s.length

/-- The table that a document writes. -/
def parse (t : Text) : Except Error Table :=
  readLines .empty (Text.joinReturns t)

end Gloss.Toml
