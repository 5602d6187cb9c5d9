import Gloss.Toml.Quoted
import Gloss.Toml.Scalar
import Gloss.Toml.Value

/-! The keys and values of TOML. Arrays and inline tables hold values in turn. -/

namespace Gloss.Toml

/-- A character of a bare name. -/
def isBare (c : Char) : Bool :=
  c.isAlphanum || c = '-' || c = '_'

/-- One name of a key: bare, or a string on one line. -/
def readName (s : Text) : Except Error (Read s Text) :=
  match s with
  | [] => .error .malformed
  | c :: r =>
    if isBare c then
      .ok ⟨c :: r.takeWhile isBare, r.dropWhile isBare, length_dropWhile_lt_cons isBare c r⟩
    else if c = '"' then return (← readBasic false r).within (length_le_cons c r)
    else if c = '\'' then return (← readLiteral r).within (length_le_cons c r)
    else throw .malformed

/-- A key: names with dots between them. The spaces after it are taken too. -/
def readKey (s : Text) : Except Error (Read s Key) := do
  let name := (← readName s).dropSpace
  match h : name.rest with
  | [] => return name.map ([·])
  | c :: r =>
    if c = '.' then
      have := name.length_skipSpace_tail_lt h
      let more ← readKey (skipSpace r)
      return (more.map (name.value :: ·)).within (name.length_skipSpace_tail_le h)
    else return name.map ([·])
termination_by s.length

/-- The tables and arrays whose content is complete: no later key may lead into them. -/
abbrev Frozen := List Key

/-- The key leads to something frozen or into it. -/
def Frozen.covers (frozen : Frozen) (k : Key) : Bool :=
  frozen.any (·.isPrefixOf k)

/-- An inline table while it is read. -/
structure Inline where
  table : Table
  frozen : Frozen

/-- The inline table with one more entry. -/
def Inline.add? (t : Inline) (k : Key) (v : Value) : Except Error Inline :=
  if t.frozen.covers k then .error .malformed
  else
    match t.table.alter false (·.insert? (k.getLast?.getD []) v) k.dropLast with
    | none => .error .malformed
    | some table => .ok ⟨table, if v.isContainer then k :: t.frozen else t.frozen⟩

/-- How deep values can be nested in an entry. The bound is that of the runtime's stack, 1000
frames, of which the caller and the reader of a document have taken about twelve. -/
def maxDepth : Nat := 988

/-- What is left of the depth that values can have after one that takes `depth` of it. -/
def deeper (room depth : Nat) : Except Error Nat :=
  if room < depth then .error .tooDeep else .ok (room - depth)

mutual

/-- A value. In the depth that values can have, an array takes two and an inline table three. -/
def readValue (room : Nat) (s : Text) : Except Error (Read s Value) :=
  match s with
  | [] => .error .malformed
  | c :: r =>
    if c = '"' ∨ c = '\'' then return (← readString (c :: r)).map .text
    else if c = '[' then
      return ((← readItems (← deeper room 2) r).map .array).within (length_le_cons c r)
    else if c = '{' then
      return ((← readInline (← deeper room 3) r).map .table).within (length_le_cons c r)
    else return (← readScalar (c :: r)).map fun _ => Value.plain
termination_by 4 * s.length
decreasing_by all_goals simp only [List.length_cons]; omega

/-- The items of an array up to the closing bracket, `s` standing before an item or the bracket. -/
def readItems (room : Nat) (s : Text) : Except Error (Read s (List Value)) := do
  let t ← skipFiller s
  have := t.le
  match h : t.rest with
  | [] => throw .malformed
  | c :: r =>
    if c = ']' then return ⟨[], r, t.tail_lt h⟩
    else
      let v ← ((← readValue room t.rest).within t.le).dropFiller
      match hv : v.rest with
      | [] => throw .malformed
      | d :: q =>
        if d = ']' then return ⟨[v.value], q, v.tail_lt hv⟩
        else if d = ',' then
          have := v.tail_lt hv
          let more ← readItems room q
          return (more.map (v.value :: ·)).within (v.tail_le hv)
        else throw .malformed
termination_by 4 * s.length + 1

/-- An entry: a key and a value with an equals sign between them. -/
def readEntry (room : Nat) (s : Text) : Except Error (Read s (Key × Value)) := do
  let key ← readKey s
  match h : key.rest with
  | [] => throw .malformed
  | c :: r =>
    if c = '=' then
      have := key.length_skipSpace_tail_lt h
      let v ← readValue room (skipSpace r)
      return (v.map (key.value, ·)).within (key.length_skipSpace_tail_le h)
    else throw .malformed
termination_by 4 * s.length + 1

/-- The entries of an inline table up to the closing brace, `s` standing before a key. -/
def readEntries (room : Nat) (t : Inline) (s : Text) : Except Error (Read s Table) := do
  let entry := (← readEntry room s).dropSpace
  let t ← t.add? entry.value.1 entry.value.2
  match h : entry.rest with
  | [] => throw .malformed
  | c :: r =>
    if c = '}' then return ⟨t.table, r, entry.tail_lt h⟩
    else if c = ',' then
      have := entry.length_skipSpace_tail_lt h
      let more ← readEntries room t (skipSpace r)
      return more.within (entry.length_skipSpace_tail_le h)
    else throw .malformed
termination_by 4 * s.length + 2

/-- An inline table, `s` standing after the opening brace. -/
def readInline (room : Nat) (s : Text) : Except Error (Read s Table) :=
  match h : skipSpace s with
  | [] => .error .malformed
  | c :: r =>
    if c = '}' then .ok ⟨[], r, length_lt_of_skipSpace h⟩
    else
      have := length_skipSpace_le s
      return (← readEntries room ⟨[], []⟩ (skipSpace s)).within (length_skipSpace_le s)
termination_by 4 * s.length + 3

end

end Gloss.Toml
