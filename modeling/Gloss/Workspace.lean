import Gloss.Glob
import Gloss.Source
import Gloss.Text.Newline

/-! The note files of a workspace: those that a glob pattern selects and no pattern excludes, in the
order of their paths. -/

namespace Gloss

/-- Where note files are looked for when nothing else is set. -/
def defaultNoteGlob : Text := "**/*.des".toList

/-- The note files below `root`, by the paths on which they are found from there. -/
def noteFiles (d : Disk) (cwd : Location) (root : Path) (glob : Text) (excludes : List Text) :
    Except GlobError (List Found) := do
  let glob ← Glob.ofText glob
  if root.hasNul then return []
  match d.find cwd root with
  | .error .nameTooLong => throw .nameTooLong
  | .error _ => return []
  | .ok place =>
    if !d.isDirectory place then return []
    if glob.meetsLongName d place then throw .nameTooLong
    let files := (glob.select d place).filter fun f =>
      d.isFile f.place && !isExcluded excludes f.path
    return files.mergeSort fun a b => Text.le a.path b.path

/-- The text of a note file: UTF-8 with or without a byte order mark and with any line breaks. -/
def noteText (content : Bytes) : Except ReadError Text :=
  match Utf8.decodeMarked content with
  | .ok t => .ok (Text.unifyBreaks t)
  | .error e => .error (.undecodable e)

/-- The path of a file that was found below `root`. -/
def Found.pathFrom (root : Path) (f : Found) : Path :=
  root.join ⟨.relative, f.names⟩

/-- A note file as a source, named by its location. -/
def Source.ofFile (d : Disk) (cwd : Location) (root : Path) (f : Found) : Source where
  name := ((f.pathFrom root).resolve cwd).toText
  text := none
  reading := (d.content? f.place).map noteText

/-- The note files below `root` as sources. -/
def fileSources (d : Disk) (cwd : Location) (root : Path) (glob : Text) (excludes : List Text) :
    Except GlobError (List Source) := do
  let files ← noteFiles d cwd root glob excludes
  return files.map (Source.ofFile d cwd root)

end Gloss
