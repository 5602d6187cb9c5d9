import Gloss.Text.Basic

/-! Paths as they are written, and the locations that they name. Names are resolved by their text
alone: `..` takes back the name before it, and stays at the root. -/

namespace Gloss

/-- How a written path begins. Two slashes are a beginning of their own; three or more are one. -/
inductive Anchor where
  | relative
  | slash
  | doubleSlash
  deriving DecidableEq, Repr

/-- The name of the parent directory. -/
def parentName : Text := ['.', '.']

/-- A text that a file or a directory can be named by. -/
structure IsName (name : Text) : Prop where
  ne_nil : name ≠ []
  ne_here : name ≠ ['.']
  ne_parent : name ≠ parentName
  no_slash : '/' ∉ name
  no_nul : '\x00' ∉ name

/-- A written path: how it begins and its names, which are not empty and not `.`. -/
structure Path where
  anchor : Anchor
  names : List Text
  deriving DecidableEq, Repr

/-- A place in the directory tree: the names on the way to it from the root. -/
abbrev Location := List Text

namespace Anchor

def ofText : Text → Anchor
  | '/' :: '/' :: '/' :: _ => .slash
  | '/' :: '/' :: _ => .doubleSlash
  | '/' :: _ => .slash
  | _ => .relative

def toText : Anchor → Text
  | .relative => []
  | .slash => ['/']
  | .doubleSlash => ['/', '/']

end Anchor

namespace Location

/-- The location that a name leads to. -/
def step (place : Location) (name : Text) : Location :=
  if name = parentName then place.dropLast else place ++ [name]

def toText (place : Location) : Text :=
  '/' :: Text.join ['/'] place

/-- The names that lead from `root` to `place`, if that lies in `root`. -/
def below? (root place : Location) : Option (List Text) :=
  if root.isPrefixOf place then some (place.drop root.length) else none

end Location

namespace Path

def ofText (t : Text) : Path :=
  ⟨Anchor.ofText t, (Text.pieces '/' t).filter fun name => name ≠ [] ∧ name ≠ ['.']⟩

def ofLocation (place : Location) : Path :=
  ⟨.slash, place⟩

/-- The relative path without names is written `.`. -/
def toText (p : Path) : Text :=
  if p.anchor = .relative ∧ p.names = [] then ['.']
  else p.anchor.toText ++ Text.join ['/'] p.names

def isAbsolute (p : Path) : Bool :=
  p.anchor ≠ .relative

/-- `q` as seen from `p`. -/
def join (p q : Path) : Path :=
  if q.isAbsolute then q else ⟨p.anchor, p.names ++ q.names⟩

/-- The last name of a path, or nothing. -/
def lastName (p : Path) : Text :=
  p.names.getLast?.getD []

/-- What follows the last dot of the last name. A dot that begins or ends the name does not
count. -/
def extension? (p : Path) : Option Text :=
  let name := p.lastName
  let tail := (name.reverse.takeWhile (· ≠ '.')).reverse
  if tail ≠ [] ∧ tail.length + 1 < name.length then some tail else none

/-- A name holds the character U+0000, which no file system accepts. -/
def hasNul (p : Path) : Bool :=
  p.names.any (·.contains '\x00')

/-- The location of a path seen from the directory `cwd`. -/
def resolve (cwd : Location) (p : Path) : Location :=
  p.names.foldl Location.step (if p.isAbsolute then [] else cwd)

end Path

/-- How a source is shown to a reader: from the workspace root if it lies below, and by its own
name otherwise. -/
def shownSource (cwd : Location) (root : Option Path) (name : Text) : Text :=
  match root with
  | none => name
  | some root =>
    let p := Path.ofText name
    if p.hasNul || root.hasNul then name
    else
      match Location.below? (root.resolve cwd) (p.resolve cwd) with
      | some names => Path.toText ⟨.relative, names⟩
      | none => name

end Gloss
