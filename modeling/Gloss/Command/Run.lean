import Gloss.Command.Arguments
import Gloss.Json
import Gloss.Service
import Gloss.Terminal.Markup
import Gloss.Terminal.Table
import Gloss.Text.Quoted

/-! The commands: what each prints about a workspace, for a reader or as JSON. -/

namespace Gloss.Command

/-- Why a command stops without an exit code. -/
inductive Crash where
  | fault (e : Fault)
  | markup (e : Terminal.MarkupError)
  | nulInPath
  | nameTooLong
  deriving DecidableEq, Repr

def Crash.message : Crash → Text
  | .fault e => e.message
  | .markup e => e.message
  | .nulInPath => "embedded null byte".toList
  | .nameTooLong => "File name too long".toList

/-- How a command line ends: with an exit code and what was printed, or not at all. -/
inductive Outcome where
  | exited (code : Nat) (output : Text)
  | crashed (e : Crash)
  deriving DecidableEq, Repr

/-- A command stops early: it reports what is wrong and fails, or it crashes. -/
inductive Stop where
  | failed (output : Text)
  | crashed (e : Crash)
  deriving DecidableEq, Repr

/-- The version that the program tells. -/
def version : Text := "0.1.0".toList

/-! ### Output -/

/-- The cells of a line in the terminal. A terminal has the width that its environment tells; the
commands are taken as they run in one of 400 cells. Where lines are broken depends on it,
and whether a text can be printed does not. -/
def lineWidth : Nat := 400

/-- What a text with style tags shows. One that is not well marked up crashes the command. -/
def readMarkup (t : Text) : Except Stop Terminal.Marked :=
  (Terminal.Marked.ofText t).mapError (.crashed ∘ .markup)

/-- Lines of the terminal, of which a style that cannot be read crashes the command. -/
def printLines (lines : Except Terminal.ColorError (List Text)) : Except Stop Text :=
  match lines with
  | .ok lines => .ok (lines.flatMap (· ++ ['\n']))
  | .error e => .error (.crashed (.markup (.color e)))

/-- A text with style tags, as the terminal shows it. -/
def printMarkup (t : Text) : Except Stop Text := do
  printLines (Terminal.drawLines lineWidth (← readMarkup t))

/-- A line in one style. The text itself may hold tags. -/
def printStyled (style : String) (t : Text) : Except Stop Text :=
  printMarkup (("[" ++ style ++ "]").toList ++ t ++ ("[/" ++ style ++ "]").toList)

/-- The report of an error ends the command. -/
def fail {α : Type} (message : Text) : Except Stop α :=
  match printStyled "red" ("Error: ".toList ++ message) with
  | .ok output => .error (.failed output)
  | .error e => .error e

def printJson (j : Json) : Text :=
  j.write 0 ++ ['\n']

/-- The lines of a table. Its cells and its title are read as markup, all of them before the first
is drawn. -/
def printTable (title : Text) (columns : List Terminal.Column) (rows : List (List Text)) :
    Except Stop Text := do
  let rows ← rows.mapM (·.mapM readMarkup)
  let title ← readMarkup title
  printLines (Terminal.Table.lines lineWidth { title, columns, rows })

/-! ### Steps of all commands -/

/-- The service for the workspace that the options and the surroundings name. -/
def openService (s : Session) (root color : Option Text) : Except Stop Service :=
  match Config.load s { root, color, start := none } with
  | .error e =>
    match e with
    | .invalid _ => fail e.message
    | _ => .error (.crashed (.fault (.config e)))
  | .ok config =>
    if s.disk.meetsLongName s.cwd config.root then .error (.crashed .nameTooLong)
    else if s.disk.hasDirectory s.cwd config.root then
      .ok { config, provider := workspaceProvider, loader := none, loads := 0 }
    else fail ("Workspace root is not a directory: ".toList ++ config.root.toText)

/-- What the system says when a file cannot be opened. -/
def openMessage (e : OpenError) (p : Path) : Text :=
  let reason := match e with
    | .missing => "[Errno 2] No such file or directory: "
    | .notDirectory => "[Errno 20] Not a directory: "
    | .isDirectory => "[Errno 21] Is a directory: "
    | .nameTooLong => "[Errno 36] File name too long: "
  reason.toList ++ p.toText.quoted

/-- The text of a document. A byte order mark is part of it. -/
def readDocument (s : Session) (file : Text) : Except Stop Text :=
  let p := Path.ofText file
  let refuse (reason : Text) : Except Stop Text :=
    fail ("Cannot read document ".toList ++ file ++ ": ".toList ++ reason)
  if p.hasNul then .error (.crashed .nulInPath)
  else
    match s.disk.read s.cwd p with
    | .error e => refuse (openMessage e p)
    | .ok content =>
      match Utf8.decode content with
      | .error e => refuse e.message
      | .ok t => .ok (Text.unifyBreaks t)

/-- An answer of the service. A line that is not there is reported, anything else crashes. -/
def ofService {α : Type} (answer : Except Fault α) : Except Stop α :=
  match answer with
  | .ok a => .ok a
  | .error (.position e) => fail e.message
  | .error e => .error (.crashed (.fault e))

/-! ### Shapes of JSON -/

def jsonOfPosition (p : Position) : Json :=
  .ofFields [("line", .ofNat p.line), ("character", .ofNat p.character)]

def jsonOfRange (r : Range) : Json :=
  .ofFields [("start", jsonOfPosition r.start), ("end", jsonOfPosition r.stop)]

def jsonOfEntry (e : Entry) : Json :=
  .ofFields [("key", .text e.key), ("value", .text e.value), ("source_id", .text e.source),
    ("line", .ofNat e.definition.line)]

def jsonOfIndex (i : Index) : Json :=
  .ofFields [("entries", .array (i.entries.map jsonOfEntry)),
    ("skipped", .array (i.failures.map fun f =>
      .ofFields [("source_id", .text f.source), ("reason", .text f.reason)]))]

def jsonOfHighlight (h : Highlight) : Json :=
  .ofFields [("color", .text h.color), ("border_radius", .text h.borderRadius),
    ("decorations", .array (h.decorations.map fun d =>
      .ofFields [("key", .text d.key), ("start_offset", .ofNat d.start),
        ("end_offset", .ofNat d.stop), ("range", jsonOfRange d.range)]))]

def jsonOfHover (h : Hover) : Json :=
  .ofFields [("key", .text h.key), ("text", .text h.text), ("provenance", .text h.provenance),
    ("range", jsonOfRange h.range)]

def jsonOfDefinition (d : Definition) : Json :=
  .ofFields [("key", .text d.key), ("source_id", .text d.source),
    ("definition_span", .ofFields [("line", .ofNat d.span.line),
      ("start_offset", .ofNat d.span.start), ("end_offset", .ofNat d.span.stop)])]

/-! ### The commands -/

/-- The first characters of a value on one line. -/
def preview (value : Text) : Text :=
  let line := value.replaceChar '\n' ' '
  if 60 < line.length then line.take 57 ++ "...".toList else line

def noteRow (s : Session) (root : Path) (e : Entry) : List Text :=
  [Terminal.escape e.key, shownSource s.cwd (some root) e.source,
    Text.ofNat (e.definition.line + 1), Terminal.escape (preview e.value)]

def noteTable (s : Session) (config : Config) (entries : List Entry) : Except Stop Text :=
  if entries = [] then
    printStyled "dim" ("No notes found under ".toList ++ config.root.toText ++ " (".toList ++
      config.glob ++ [')'])
  else
    printTable (Text.ofNat entries.length ++ " Note(s)".toList)
      [{ head := "Key".toList }, { head := "Source".toList },
        { head := "Line".toList, toRight := true }, { head := "Value".toList }]
      (entries.map (noteRow s config.root))

def skippedLine (f : Failure) : Except Stop Text :=
  printStyled "yellow" ("Skipped ".toList ++ f.source ++ ": ".toList ++ f.reason)

/-- Lists the notes of a workspace. -/
def listNotes (s : Session) (root : Option Text) (json : Bool) : Except Stop Text := do
  let service ← openService s root none
  let index ← ofService (service.index ⟨s, []⟩)
  if json then return printJson (jsonOfIndex index)
  let table ← noteTable s service.config index.entries
  let skipped ← index.failures.mapM skippedLine
  return table ++ skipped.flatten

/-- A position as a reader counts, from 1. -/
def shownPosition (p : Position) : Text :=
  Text.ofNat (p.line + 1) ++ [':'] ++ Text.ofNat (p.character + 1)

def highlightTable (h : Highlight) : Except Stop Text :=
  if h.decorations = [] then printStyled "dim" "No note keys found in document".toList
  else
    printTable (Text.ofNat h.decorations.length ++ " Highlight(s), color ".toList ++
        Terminal.escape h.color)
      [{ head := "Key".toList }, { head := "Start".toList, shrinks := false },
        { head := "End".toList, shrinks := false }]
      (h.decorations.map fun d =>
        [Terminal.escape d.key, shownPosition d.range.start, shownPosition d.range.stop])

/-- Shows the marks for a file. Its language is the one given, or else the one that its name ends
with. -/
def showHighlight (s : Session) (file : Text) (root color language : Option Text) (json : Bool) :
    Except Stop Text := do
  let service ← openService s root color
  let language := firstGiven [language, (Path.ofText file).extension?]
  let document ← readDocument s file
  let h ← ofService (service.highlight ⟨s, []⟩ document language)
  if json then return printJson (jsonOfHighlight h)
  highlightTable h

/-- What is printed where no note is. -/
def printNothing (json : Bool) : Except Stop Text :=
  if json then return printJson .null else printStyled "dim" "No note at this position".toList

/-- What an inline span of code shows: line breaks become spaces, and of the spaces around a text
that is not blank one on either side is left out. -/
def codeSpan (t : Text) : Text :=
  let line := t.replaceChar '\n' ' '
  if line.head? = some ' ' ∧ line.getLast? = some ' ' ∧ Text.strip line ≠ [] then
    line.tail.dropLast
  else line

/-- The key of a note, its text as a block with a space on either side, and its provenance. -/
def printHover (h : Hover) : Except Stop Text := do
  let key ← printStyled "bold magenta" (Terminal.escape h.key)
  let block := (Terminal.plainLines (lineWidth - 2) h.text).map (' ' :: ·)
  let provenance := Terminal.plainLines lineWidth ("from: ".toList ++ codeSpan h.provenance)
  return key ++ (['\n'] :: block.map (· ++ ['\n']) ++ [['\n'], ['\n']]).flatten ++
    provenance.flatMap (· ++ ['\n'])

/-- Shows the note at a place in a file. -/
def showHover (s : Session) (file : Text) (line column : Int) (root : Option Text) (json : Bool) :
    Except Stop Text := do
  let service ← openService s root none
  let document ← readDocument s file
  match ← ofService (service.hover ⟨s, []⟩ document (line - 1) (column - 1)) with
  | none => printNothing json
  | some h => if json then return printJson (jsonOfHover h) else printHover h

/-- Shows where the note at a place in a file is defined. -/
def showDefinition (s : Session) (file : Text) (line column : Int) (root : Option Text)
    (json : Bool) : Except Stop Text := do
  let service ← openService s root none
  let document ← readDocument s file
  match ← ofService (service.definition ⟨s, []⟩ document (line - 1) (column - 1)) with
  | none => printNothing json
  | some d =>
    if json then return printJson (jsonOfDefinition d)
    else return d.source ++ [':'] ++ Text.ofNat (d.span.line + 1) ++ ['\n']

def showVersion : Except Stop Text :=
  printMarkup ("design-resolve v".toList ++ version)

/-- What the answer to a question prints. -/
def answer (s : Session) : Query → Except Stop Text
  | .notes root json => listNotes s root json
  | .highlight file root color language json => showHighlight s file root color language json
  | .hover file line column root json => showHover s file line column root json
  | .definition file line column root json => showDefinition s file line column root json
  | .version => showVersion

/-- How a command ends that printed an answer, or stopped early. -/
def Outcome.ofAnswer : Except Stop Text → Outcome
  | .ok output => .exited 0 output
  | .error (.failed output) => .exited 1 output
  | .error (.crashed e) => .crashed e

/-- How a command line ends. One that asks nothing prints nothing and exits with 2. -/
def run (s : Session) (args : List Text) : Outcome :=
  match Query.ofArguments args with
  | none => .exited 2 []
  | some q => .ofAnswer (answer s q)

end Gloss.Command
