import Gloss.Command.Run

/-! The command line. The paths of the files that a command sees stand on standard input, one a
line. One that ends with a slash names a directory. -/

namespace Gloss.Command

/-- The lines that are left of a stream. -/
partial def readLines (input : IO.FS.Stream) : IO (List Text) := do
  let line ← input.getLine
  if line.isEmpty then return []
  return Text.trimEndBy (· = '\n') line.toList :: (← readLines input)

/-- The tree with what a path names for one who stands in the directory `cwd`. -/
def addItem (cwd : Location) (d : Disk) (path : Text) : IO Disk := do
  let place := (Path.ofText path).resolve cwd
  let added ←
    if path.getLast? = some '/' then pure (d.makeDirectory place)
    else do
      let content ← IO.FS.readBinFile (String.ofList path)
      pure (d.write place content.toList)
  match added with
  | .ok d => return d
  | .error e => throw (IO.userError (String.ofList (openMessage e (Path.ofText path))))

def readVariable (name : String) : IO (Option Text) := do
  return (← IO.getEnv name).map (·.toList)

/-- The lines of a file, or none if it cannot be read. -/
def readFileLines (file : String) : IO (List Text) := do
  try
    return (← IO.FS.lines file).toList.map (·.toList)
  catch _ => return []

/-- A user as the system lists it. -/
structure User where
  name : Text
  number : Text
  home : Text

/-- The users in a file with a line for each. The parts of a line stand between colons: the first is
the name, the third the number, and the sixth the home directory. -/
def usersOfLines (lines : List Text) : List User :=
  lines.filterMap fun line =>
    match Text.pieces ':' line with
    | name :: _ :: number :: _ :: _ :: home :: _ => some { name, number, home }
    | _ => none

/-- The number of the user for whom a process runs, in the lines that tell its status. -/
def userNumber? (lines : List Text) : Option Text :=
  lines.findSome? fun line =>
    match Text.pieces '\t' line with
    | field :: number :: _ => if field = "Uid:".toList then some number else none
    | _ => none

/-- The home directory of the user: the variable tells it, or else the list of the users. If neither
does, it is `~`, which is the path of no home directory. -/
def readHome (users : List User) : IO Text := do
  match ← readVariable "HOME" with
  | some home => return home
  | none =>
    let number := userNumber? (← readFileLines "/proc/self/status")
    return ((users.find? fun user => some user.number = number).map (·.home)).getD ['~']

/-- What the program finds around it. -/
def readSession : IO Session := do
  let cwd := (Path.ofText (← IO.currentDir).toString.toList).resolve []
  let paths ← readLines (← IO.getStdin)
  let disk ← paths.foldlM (addItem cwd) (Disk.empty.ensureDirectory [] cwd)
  let users := usersOfLines (← readFileLines "/etc/passwd")
  return {
    disk, cwd
    home := ← readHome users
    homes := users.map fun user => (user.name, user.home)
    environment := ← Environment.ofVariables readVariable }

end Gloss.Command

/-- Prints what a command says about the files, and exits with its code. -/
def main (args : List String) : IO UInt32 := do
  match Gloss.Command.run (← Gloss.Command.readSession) (args.map (·.toList)) with
  | .exited code output =>
    IO.print (String.ofList output)
    return UInt32.ofNat code
  | .crashed e =>
    IO.eprintln (String.ofList e.message)
    return 1
