import Gloss.Session
import Gloss.Text.Numeral
import Gloss.Toml.Value
import Gloss.Workspace

/-! The configuration of a workspace, and the settings that a configuration file gives. -/

namespace Gloss

/-- Where the notes of a workspace are, which documents they are for, and the color of marks. The
color is passed on as it is. -/
structure Config where
  root : Path
  glob : Text
  language : Text
  color : Text
  excludes : List Text
  deriving DecidableEq, Repr

namespace Config

def defaultColor : Text := "rgba(207, 174, 174, 0.82)".toList

def defaultLanguage : Text := "outline".toList

def defaultExcludes : List Text := [".git/**".toList, "node_modules/**".toList]

/-- The configuration with everything but the root as it is by default. -/
def ofRoot (root : Path) : Config :=
  { root, glob := defaultNoteGlob, language := defaultLanguage, color := defaultColor,
    excludes := defaultExcludes }

/-- The configuration with another color, the default one for an empty color or none. -/
def withColor (c : Config) (color : Option Text) : Config :=
  { c with color := if color.getD [] = [] then defaultColor else color.getD [] }

end Config

/-- The settings that a configuration file can give, in the order in which they are checked. -/
inductive Setting where
  | root
  | color
  | glob
  | excludes
  | language
  deriving DecidableEq, Repr

namespace Setting

/-- The key of a setting in a configuration file. -/
def key : Setting → Toml.Key
  | .root => ["workspace_root".toList]
  | .color => ["highlight".toList, "color".toList]
  | .glob => ["notes".toList, "glob".toList]
  | .excludes => ["notes".toList, "exclude_globs".toList]
  | .language => ["document".toList, "language_id".toList]

/-- The name by which messages call a setting. -/
def name : Setting → String
  | .root => "workspace_root"
  | .color => "[highlight].color"
  | .glob => "[notes].glob"
  | .excludes => "[notes].exclude_globs"
  | .language => "[document].language_id"

/-- What the value of a setting has to be. -/
def rule : Setting → String
  | .color => "a string"
  | .excludes => "a list of strings"
  | _ => "a non-empty string"

end Setting

/-- Why there is no configuration. -/
inductive ConfigError where
  | invalid (setting : Setting)
  | undecodable (cause : Utf8.Error)
  | oversized (digits : Nat)
  | tooDeep
  | noHome
  | nulInPath
  | nameTooLong
  deriving DecidableEq, Repr

def ConfigError.message : ConfigError → Text
  | .invalid s => ("Invalid config: " ++ s.name ++ " must be " ++ s.rule).toList
  | .undecodable cause => cause.message
  | .oversized digits => Text.oversizedMessage digits
  | .tooDeep => "maximum recursion depth exceeded".toList
  | .noHome => "Could not determine home directory.".toList
  | .nulInPath => "embedded null byte".toList
  | .nameTooLong => "File name too long".toList

/-- What a configuration file gives. -/
structure FileSettings where
  root : Option Text
  color : Option Text
  glob : Option Text
  excludes : Option (List Text)
  language : Option Text
  deriving DecidableEq, Repr

namespace Toml.Value

/-- The text of a string. -/
def text? : Value → Option Text
  | .text t => some t
  | _ => none

/-- The text of a string without the white space at its ends, if something is left. -/
def word? (v : Value) : Option Text :=
  match v with
  | .text t => if Text.strip t = [] then none else some (Text.strip t)
  | _ => none

/-- The texts of an array of strings. -/
def texts? : Value → Option (List Text)
  | .array items => items.mapM text?
  | _ => none

end Toml.Value

namespace FileSettings

/-- What `read` makes of the value of a setting, if the file gives one. -/
def setting? {α : Type} (t : Toml.Table) (s : Setting) (read : Toml.Value → Option α) :
    Except ConfigError (Option α) :=
  match Toml.Table.get? t s.key with
  | none => .ok none
  | some v =>
    match read v with
    | some a => .ok (some a)
    | none => .error (.invalid s)

/-- The settings of a file. The first bad one counts. -/
def ofTable (t : Toml.Table) : Except ConfigError FileSettings := do
  let root ← setting? t .root Toml.Value.word?
  let color ← setting? t .color Toml.Value.text?
  let glob ← setting? t .glob Toml.Value.word?
  let excludes ← setting? t .excludes Toml.Value.texts?
  let language ← setting? t .language Toml.Value.word?
  return { root, color, glob, excludes, language }

end FileSettings

end Gloss
