import Gloss.Config
import Gloss.Toml.Document

/-! Loading a configuration. Each setting comes from the first layer that gives it: the command
line, the environment, the configuration file, the default. -/

namespace Gloss

/-- The directory of the configuration file. -/
def configDirectory : Text := ".design_resolve".toList

/-- What marks a directory: something in it that has the name and is of the right kind. -/
structure Mark where
  name : Text
  accepts : Item → Bool

/-- The marks of the root of a repository, and last the one of a configuration, which is a
directory. -/
def marks : List Mark :=
  [⟨".git".toList, fun _ => true⟩, ⟨"pyproject.toml".toList, fun _ => true⟩,
    ⟨configDirectory, Item.isDirectory⟩]

/-- The item at a location, for one who looks it up by its path. The look-up fails if the path, or a
name on the way, is too long. -/
def Disk.lookUp (d : Disk) (place : Location) : Except ConfigError (Option Item) :=
  if d.meetsLongName [] (Path.ofLocation place) then .error .nameTooLong else .ok (d.item? place)

/-- The mark is there in the directory. -/
def Disk.findsMark (d : Disk) (place : Location) (mark : Mark) : Except ConfigError Bool := do
  return (← d.lookUp (place ++ [mark.name])).any mark.accepts

/-- The directory is the root of a repository or has a configuration. The marks are looked up one
after the other, up to the first that is there. -/
def Disk.isMarked (d : Disk) (place : Location) : Except ConfigError Bool :=
  marks.anyM (d.findsMark place)

/-- The first marked directory on the way from `place` outwards. The root directory is the one
around itself: if it is reached and is not marked, the answer is `start`, where the way began. -/
def Disk.climb (d : Disk) (start place : Location) : Except ConfigError Location :=
  match d.isMarked place with
  | .error e => .error e
  | .ok true => .ok place
  | .ok false => if place.dropLast = place then .ok start else d.climb start place.dropLast
termination_by place.length
decreasing_by
  have hne : place ≠ [] := by
    rintro rfl
    contradiction
  have hpos := List.length_pos_iff.mpr hne
  rw [List.length_dropLast]
  omega

/-- The nearest marked directory at or around `start`, or `start` if there is none. -/
def Disk.repositoryRoot (d : Disk) (start : Location) : Except ConfigError Location :=
  d.climb start start

/-- The table of the configuration file of a repository. A file that is missing, or no TOML, is as
good as an empty one. -/
def Disk.configTable (d : Disk) (repository : Location) : Except ConfigError Toml.Table :=
  match d.content? (repository ++ [configDirectory, "config.toml".toList]) with
  | none => .ok []
  | some content =>
    match Utf8.decode content with
    | .error e => .error (.undecodable e)
    | .ok t =>
      match Toml.parse t with
      | .ok table => .ok table
      | .error .malformed => .ok []
      | .error (.oversized digits) => .error (.oversized digits)
      | .error .tooDeep => .error .tooDeep

/-- The first of the texts that is there and not empty. -/
def firstGiven (layers : List (Option Text)) : Option Text :=
  layers.findSome? fun layer => if layer.getD [] = [] then none else layer

/-- What the command line says, and where the search for a repository starts. -/
structure Overrides where
  root : Option Text
  color : Option Text
  start : Option Path

/-- The path of a home directory. Slashes at the end of its text do not count, and a text without
anything else is the root directory. One that begins with `~` would need a home directory itself. -/
def homePath (home : Text) : Except ConfigError Path :=
  if home.head? = some '~' then .error .noHome
  else
    let t := Text.trimEndBy (· = '/') home
    .ok (Path.ofText (if t = [] then ['/'] else t))

namespace Session

/-- The path with a leading `~` made the home directory, and with the name of a user after that the
home directory of the user. No user has a name with the character U+0000. -/
def expandHome (s : Session) (p : Path) : Except ConfigError Path :=
  match p.anchor, p.names with
  | .relative, name :: rest =>
    if name = ['~'] then do
      let home ← homePath s.home
      return home.join ⟨.relative, rest⟩
    else if name.head? = some '~' then
      if '\x00' ∈ name then .error .nulInPath
      else
        match s.homes.lookup name.tail with
        | some home => do
          let home ← homePath home
          return home.join ⟨.relative, rest⟩
        | none => .error .noHome
    else .ok p
  | _, _ => .ok p

/-- The location of a path. -/
def locate (s : Session) (p : Path) : Except ConfigError Location :=
  if p.hasNul then .error .nulInPath else .ok (p.resolve s.cwd)

/-- Where the search for a repository starts. -/
def startDirectory (s : Session) (o : Overrides) : Except ConfigError Location :=
  match o.start with
  | some p => s.locate p
  | none => .ok s.cwd

/-- The repository around the directory where the search starts. -/
def repository (s : Session) (o : Overrides) : Except ConfigError Location := do
  let start ← s.startDirectory o
  s.disk.repositoryRoot start

/-- The workspace root, seen from the current directory if the command line gives it, and from the
repository otherwise. -/
def rootPath (s : Session) (repository : Location) (given : Option Text) (file : Option Text) :
    Except ConfigError Path :=
  match firstGiven [given] with
  | some t => s.expandHome (Path.ofText t)
  | none =>
    match firstGiven [s.environment.root, file] with
    | some t => do
      let p ← s.expandHome (Path.ofText t)
      return (Path.ofLocation repository).join p
    | none => .ok (Path.ofLocation repository)

end Session

/-- The configuration that the layers make up. -/
def Config.load (s : Session) (o : Overrides) : Except ConfigError Config := do
  let repository ← s.repository o
  let table ← s.disk.configTable repository
  let file ← FileSettings.ofTable table
  let root ← s.locate (← s.rootPath repository o.root file.root)
  return {
    root := Path.ofLocation root
    glob := (firstGiven [s.environment.glob, file.glob]).getD defaultNoteGlob
    language := (firstGiven [s.environment.language, file.language]).getD defaultLanguage
    color := (firstGiven [o.color, s.environment.color, file.color]).getD defaultColor
    excludes := file.excludes.getD defaultExcludes }

end Gloss
