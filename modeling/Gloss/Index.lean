import Gloss.Note.Scan
import Gloss.Source

/-! The index of the notes of a list of sources. A source that cannot be read is recorded, and the
others still count. -/

namespace Gloss

/-- A source left out of an index. -/
structure Failure where
  source : Text
  reason : Text
  deriving DecidableEq, Repr

/-- The notes of some sources in their order, and the sources left out. -/
structure Index where
  entries : List Entry
  failures : List Failure
  deriving DecidableEq, Repr

namespace Index

def empty : Index := ⟨[], []⟩

def append (a b : Index) : Index :=
  ⟨a.entries ++ b.entries, a.failures ++ b.failures⟩

instance : Append Index := ⟨append⟩

def keys (i : Index) : List Text :=
  i.entries.map (·.key)

def size (i : Index) : Nat :=
  i.entries.length

/-- The number of sources left out. -/
def skipped (i : Index) : Nat :=
  i.failures.length

/-- What the outcome of loading the source `name` adds to an index. -/
def ofOutcome (name : Text) : Except ReadError Text → Except ReadError Index
  | .ok t => .ok ⟨readNotes name t, []⟩
  | .error e => if e.isolated then .ok ⟨[], [⟨name, e.message⟩]⟩ else .error e

/-- What a source adds to an index. -/
def ofSource (s : Source) : Except ReadError Index :=
  ofOutcome s.name s.load

/-- The index of the given sources. -/
def build : List Source → Except ReadError Index
  | [] => .ok empty
  | s :: rest => do
    let first ← ofSource s
    let others ← build rest
    return first ++ others

end Index

end Gloss
