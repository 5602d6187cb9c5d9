import Gloss.Disk
import Gloss.Wildcard

/-! Glob patterns over a directory tree: names, wildcards for one name, and `**` for any number of
directories. -/

namespace Gloss

/-- Why a text is no glob pattern, or why it cannot be followed in a directory tree. A text of dots
and slashes without a name, such as `.` and `./`, is `noName`. With a slash at its end the program
finds that out later than without, and with another message, which is not told apart here. -/
inductive GlobError where
  | empty
  | absolute
  | noName
  | mixedStars
  | nameTooLong
  deriving DecidableEq, Repr

def GlobError.message : GlobError → Text
  | .empty => "Unacceptable pattern: ''".toList
  | .absolute => "Non-relative patterns are unsupported".toList
  | .noName => "tuple index out of range".toList
  | .mixedStars => "Invalid pattern: '**' can only be an entire path component".toList
  | .nameTooLong => "File name too long".toList

/-- One step of a glob pattern. -/
inductive GlobStep where
  | name (name : Text)
  | wild (pattern : Wildcard)
  | directories
  deriving DecidableEq, Repr

/-- The steps of a pattern. With `directory` it selects directories alone. -/
structure Glob where
  steps : List GlobStep
  directory : Bool
  deriving DecidableEq, Repr

/-- Something that a pattern selected: the names by which it was found, and its location. -/
structure Found where
  names : List Text
  place : Location
  deriving DecidableEq, Repr

/-- The path by which something was found. -/
def Found.path (f : Found) : Text :=
  Path.toText ⟨.relative, f.names⟩

/-- Two stars stand next to each other in the text. -/
def hasTwoStars : Text → Bool
  | '*' :: '*' :: _ => true
  | _ :: r => hasTwoStars r
  | [] => false

namespace GlobStep

def ofName (name : Text) : Except GlobError GlobStep :=
  if name = ['*', '*'] then .ok .directories
  else if hasTwoStars name then .error .mixedStars
  else if name.any fun c => c = '*' || c = '?' || c = '[' then .ok (.wild (Wildcard.ofText name))
  else .ok (.name name)

/-- The step is a name that no directory can be asked for. -/
def isTooLong : GlobStep → Bool
  | .name part => Gloss.isTooLong part && '\x00' ∉ part
  | _ => false

end GlobStep

namespace Glob

/-- The pattern that a text writes. -/
def ofText (t : Text) : Except GlobError Glob := do
  let p := Path.ofText t
  if t = [] then throw .empty
  if p.isAbsolute then throw .absolute
  if p.names = [] then throw .noName
  return ⟨← p.names.mapM GlobStep.ofName, t.getLast? = some '/'⟩

/-- What the steps of a pattern select from a directory. A step before another leads to directories
only, and so does the last one of a pattern for directories. -/
def selectFrom (d : Disk) (directory : Bool) : List GlobStep → Found → List Found
  | [], here => [here]
  | step :: rest, here =>
    let accepts (place : Location) : Bool :=
      if rest ≠ [] ∨ directory then d.isDirectory place else (d.item? place).isSome
    let enter (name : Text) : List Found :=
      let next : Found := ⟨here.names ++ [name], here.place.step name⟩
      if accepts next.place then selectFrom d directory rest next else []
    match step with
    | .name name => enter name
    | .wild w => ((d.children here.place).filter w.covers).flatMap enter
    | .directories =>
      ((d.directoriesFrom here.place).flatMap fun place =>
        selectFrom d directory rest ⟨here.names ++ place.drop here.place.length, place⟩).eraseDups

/-- What a pattern selects from the directory at `root`. -/
def select (g : Glob) (d : Disk) (root : Location) : List Found :=
  selectFrom d g.directory g.steps ⟨[], root⟩

/-- The steps of a pattern lead from `root` to a name that is too long. -/
def meetsLongName (g : Glob) (d : Disk) (root : Location) : Bool :=
  let before := g.steps.takeWhile fun step => !step.isTooLong
  before.length < g.steps.length && !(selectFrom d true before ⟨[], root⟩).isEmpty

end Glob

end Gloss
