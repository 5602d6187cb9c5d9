import Gloss.Text.Basic

/-! The values of a TOML document, as far as settings need them: numbers, booleans, dates and times
are not told apart. -/

namespace Gloss.Toml

inductive Value where
  | text (t : Text)
  | array (items : List Value)
  | table (entries : List (Text × Value))
  | plain

/-- The keys of a table with their values. No key is there twice. -/
abbrev Table := List (Text × Value)

/-- The names on the way to a value. -/
abbrev Key := List Text

namespace Value

/-- Tables and arrays hold other values. -/
def isContainer : Value → Bool
  | .table _ | .array _ => true
  | _ => false

end Value

namespace Table

/-- The table with `v` under the key `k`, which it holds already. -/
def replace (t : Table) (k : Text) (v : Value) : Table :=
  t.map fun e => if e.1 = k then (k, v) else e

/-- The value at the end of a key, if the way to it leads through tables alone. -/
def get? (t : Table) : Key → Option Value
  | [] => none
  | [k] => t.lookup k
  | k :: next :: rest =>
    match t.lookup k with
    | some (.table u) => get? u (next :: rest)
    | _ => none

/-- The table with `f` applied to the table at the end of a key. Tables that are missing on the way
are made; with `intoArrays` the way leads through the last table of an array. -/
def alter (intoArrays : Bool) (f : Table → Option Table) (t : Table) : Key → Option Table
  | [] => f t
  | k :: rest =>
    match t.lookup k with
    | none => (alter intoArrays f [] rest).map fun u => t ++ [(k, .table u)]
    | some (.table u) => (alter intoArrays f u rest).map fun u => t.replace k (.table u)
    | some (.array items) =>
      match intoArrays, items.getLast? with
      | true, some (.table u) =>
        (alter intoArrays f u rest).map fun u => t.replace k (.array (items.dropLast ++ [.table u]))
      | _, _ => none
    | some _ => none

/-- The table with a new entry. -/
def insert? (t : Table) (k : Text) (v : Value) : Option Table :=
  if (t.lookup k).isSome then none else some (t ++ [(k, v)])

/-- The table with one more table in the array under a key. -/
def pushTable? (t : Table) (k : Text) : Option Table :=
  match t.lookup k with
  | none => some (t ++ [(k, .array [.table []])])
  | some (.array items) => some (t.replace k (.array (items ++ [.table []])))
  | some _ => none

end Table

end Gloss.Toml
