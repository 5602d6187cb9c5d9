import Gloss.Disk

/-! What a command finds around it: a directory tree, the directory where it stands, the home
directories and the variables of the environment. -/

namespace Gloss

/-- The variables of the environment that give settings. -/
structure Environment where
  root : Option Text
  color : Option Text
  glob : Option Text
  language : Option Text
  deriving DecidableEq, Repr

namespace Environment

/-- The settings among the variables that `value?` looks up. -/
def ofVariables {m : Type → Type} [Monad m] (value? : String → m (Option Text)) :
    m Environment := do
  let root ← value? "DESIGN_RESOLVE_ROOT"
  let color ← value? "DESIGN_RESOLVE_HIGHLIGHT_COLOR"
  let glob ← value? "DESIGN_RESOLVE_NOTE_GLOB"
  let language ← value? "DESIGN_RESOLVE_LANGUAGE_ID"
  return { root, color, glob, language }

end Environment

/-- The surroundings of a command. `home` is the home directory of its user, and `homes` holds those
of the users that are known by name. -/
structure Session where
  disk : Disk
  cwd : Location
  home : Text
  homes : List (Text × Text)
  environment : Environment

end Gloss
