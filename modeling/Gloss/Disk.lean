import Gloss.Path
import Gloss.Text.Utf8

/-! A directory tree without links, as the list of its files and directories. -/

namespace Gloss

/-- What stands at a location. -/
inductive Item where
  | directory
  | file (content : Bytes)
  deriving DecidableEq, Repr

namespace Item

def isDirectory : Item → Bool
  | .directory => true
  | .file _ => false

def isFile : Item → Bool
  | .directory => false
  | .file _ => true

end Item

/-- The items of a directory tree. The root directory is always there and not listed. -/
structure Disk where
  items : List (Location × Item)

/-- Why a file cannot be opened. -/
inductive OpenError where
  | missing
  | notDirectory
  | isDirectory
  | nameTooLong
  deriving DecidableEq, Repr

/-- The most bytes that a name can have: the limit of the file systems of Linux. -/
def maxNameBytes : Nat := 255

/-- The most bytes that a path can have when it is opened: the limit of Linux, which counts the zero
byte after the path too. -/
def maxPathBytes : Nat := 4095

def isTooLong (name : Text) : Bool :=
  maxNameBytes < (Utf8.encode name).length

namespace Disk

def empty : Disk := ⟨[]⟩

/-- The item at a location. -/
def item? (d : Disk) (place : Location) : Option Item :=
  if place = [] then some .directory else d.items.lookup place

def isDirectory (d : Disk) (place : Location) : Bool :=
  (d.item? place).any (·.isDirectory)

def isFile (d : Disk) (place : Location) : Bool :=
  (d.item? place).any (·.isFile)

def content? (d : Disk) (place : Location) : Option Bytes :=
  match d.item? place with
  | some (.file content) => some content
  | _ => none

/-- A tree as a system holds it: every item stands in a directory, no location is listed twice, and
no name and no path is too long to be opened. -/
structure WellFormed (d : Disk) : Prop where
  nodup : (d.items.map (·.1)).Nodup
  proper : ∀ x ∈ d.items, x.1 ≠ [] ∧ d.isDirectory x.1.dropLast
  names : ∀ x ∈ d.items, ∀ name ∈ x.1, IsName name
  shortNames : ∀ x ∈ d.items, ∀ name ∈ x.1, isTooLong name = false
  shortPath : ∀ x ∈ d.items, (Utf8.encode (Location.toText x.1)).length ≤ maxPathBytes

/-- The names in a directory. -/
def children (d : Disk) (place : Location) : List Text :=
  d.items.filterMap fun x =>
    if x.1 ≠ [] ∧ x.1.dropLast = place then x.1.getLast? else none

/-- The directories at and below a directory. -/
def directoriesFrom (d : Disk) (place : Location) : List Location :=
  place :: d.items.filterMap fun x =>
    if x.2.isDirectory ∧ place.isPrefixOf x.1 ∧ x.1 ≠ place then some x.1 else none

/-- The location that names lead to from `place`. Every name but the last has to lead to a
directory, and the last to something. A name that is too long is found out in its directory. -/
def walk (d : Disk) (place : Location) : List Text → Except OpenError Location
  | [] => if (d.item? place).isSome then .ok place else .error .missing
  | name :: names =>
    match d.item? place with
    | none => .error .missing
    | some (.file _) => .error .notDirectory
    | some .directory =>
      if isTooLong name then .error .nameTooLong else d.walk (place.step name) names

/-- The location that a path names for one who stands in the directory `cwd`. -/
def find (d : Disk) (cwd : Location) (p : Path) : Except OpenError Location :=
  if maxPathBytes < (Utf8.encode p.toText).length then .error .nameTooLong
  else d.walk (if p.isAbsolute then [] else cwd) p.names

/-- The path names a directory. -/
def hasDirectory (d : Disk) (cwd : Location) (p : Path) : Bool :=
  match d.find cwd p with
  | .ok place => d.isDirectory place
  | .error _ => false

/-- The path cannot be followed, since a name on it is too long. -/
def meetsLongName (d : Disk) (cwd : Location) (p : Path) : Bool :=
  match d.find cwd p with
  | .error .nameTooLong => true
  | _ => false

/-- The content of the file that a path names. -/
def read (d : Disk) (cwd : Location) (p : Path) : Except OpenError Bytes := do
  let place ← d.find cwd p
  match d.item? place with
  | some (.file content) => return content
  | _ => throw .isDirectory

/-- The tree with `item` at `place`, in place of what was there. -/
def put (d : Disk) (place : Location) (item : Item) : Disk :=
  ⟨d.items.filter (·.1 ≠ place) ++ [(place, item)]⟩

/-- The tree with a directory at every step of the way that `names` lead from `place`. A step
that is there is kept. -/
def ensureDirectory (d : Disk) (place : Location) : List Text → Disk
  | [] => d
  | name :: names =>
    let next := place ++ [name]
    let d := if (d.item? next).isSome then d else d.put next .directory
    d.ensureDirectory next names

/-- A file stands on the way to a location. -/
def isBlocked (d : Disk) (place : Location) : Bool :=
  (List.range place.length).any fun n => d.isFile (place.take n)

/-- The tree with a directory at `place`, and with the directories on the way to it. -/
def makeDirectory (d : Disk) (place : Location) : Except OpenError Disk :=
  if d.isBlocked place || d.isFile place then .error .notDirectory
  else .ok (d.ensureDirectory [] place)

/-- The tree with a file at `place`, and with the directories on the way to it. -/
def write (d : Disk) (place : Location) (content : Bytes) : Except OpenError Disk :=
  if d.isBlocked place then .error .notDirectory
  else if d.isDirectory place then .error .isDirectory
  else .ok ((d.ensureDirectory [] place.dropLast).put place (.file content))

/-- The tree without the file at `place`. -/
def remove (d : Disk) (place : Location) : Except OpenError Disk :=
  match d.item? place with
  | none => .error .missing
  | some .directory => .error .isDirectory
  | some (.file _) => .ok ⟨d.items.filter (·.1 ≠ place)⟩

end Disk

end Gloss
