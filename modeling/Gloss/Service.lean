import Gloss.Config.Load
import Gloss.Highlight
import Gloss.Index
import Gloss.Lookup
import Gloss.Text.Quoted

/-! The service that an editor asks about its documents. It keeps its configuration and nothing
else: every answer comes from the note sources as they are when it is asked. -/

namespace Gloss

/-- What the service finds when it is asked: a session, and note sources that its user may have
supplied. -/
structure World where
  session : Session
  supplied : List Source

/-- Why the service has no answer. -/
inductive Fault where
  | config (e : ConfigError)
  | glob (e : GlobError)
  | read (e : ReadError)
  | position (e : PositionError)
  deriving DecidableEq, Repr

def Fault.message : Fault → Text
  | .config e => e.message
  | .glob e => e.message
  | .read e => e.message
  | .position e => e.message

/-- What makes an editor ask for marks again. -/
inductive Trigger where
  | activeEditorChanged
  | documentSaved
  | configurationChanged
  deriving DecidableEq, Repr

/-- There is no trigger of this name. -/
structure UnknownTrigger where
  name : Text
  deriving DecidableEq, Repr

def UnknownTrigger.message (e : UnknownTrigger) : Text :=
  e.name.quoted ++ " is not a valid Trigger".toList

namespace Trigger

def all : List Trigger := [.activeEditorChanged, .documentSaved, .configurationChanged]

def name : Trigger → Text
  | .activeEditorChanged => "active_editor_changed".toList
  | .documentSaved => "document_saved".toList
  | .configurationChanged => "configuration_changed".toList

/-- The trigger of a name. -/
def ofName (t : Text) : Except UnknownTrigger Trigger :=
  match all.find? (·.name = t) with
  | some trigger => .ok trigger
  | none => .error ⟨t⟩

end Trigger

/-- The setting of the editor that gives the color of marks. -/
def colorSetting : Text := "design-resolve.highlight.color".toList

/-- The service: its configuration, how it finds its note sources and, if it can, how it loads its
configuration anew. The loader is told how often it was called before. -/
structure Service where
  config : Config
  provider : World → Config → Except Fault (List Source)
  loader : Option (Nat → World → Except Fault Config)
  loads : Nat

/-- The note files of the workspace as the note sources. -/
def workspaceProvider (w : World) (c : Config) : Except Fault (List Source) :=
  (fileSources w.session.disk w.session.cwd c.root c.glob c.excludes).mapError .glob

/-- The sources that the user supplied as the note sources. -/
def suppliedProvider (w : World) (_ : Config) : Except Fault (List Source) :=
  .ok w.supplied

namespace Service

def index (s : Service) (w : World) : Except Fault Index := do
  let sources ← s.provider w s.config
  (Index.build sources).mapError .read

/-- The service is for documents of the language. No language stands for any. -/
def appliesTo (s : Service) (language : Option Text) : Bool :=
  match language with
  | none => true
  | some l => l = s.config.language

/-- The marks for a document. -/
def highlight (s : Service) (w : World) (t : Text) (language : Option Text) :
    Except Fault Highlight := do
  if s.appliesTo language then
    let index ← s.index w
    return ⟨s.config.color, decorations index.entries (Document.ofText t)⟩
  else return ⟨s.config.color, []⟩

def hover (s : Service) (w : World) (t : Text) (line column : Int) :
    Except Fault (Option Hover) := do
  let index ← s.index w
  (hoverAt w.session.cwd (some s.config.root) index.entries (Document.ofText t) line
    column).mapError .position

def definition (s : Service) (w : World) (t : Text) (line column : Int) :
    Except Fault (Option Definition) := do
  let index ← s.index w
  (definitionAt index.entries (Document.ofText t) line column).mapError .position

/-- The service after its configuration was loaded anew. A loader that fails leaves the
configuration as it was. -/
def reload (s : Service) (w : World) : Except Fault Config × Service :=
  match s.loader with
  | none => (.ok s.config, s)
  | some load =>
    match load s.loads w with
    | .ok c => (.ok c, { s with config := c, loads := s.loads + 1 })
    | .error e => (.error e, { s with loads := s.loads + 1 })

/-- The marks for the document in view, if there is one. -/
def highlightShown (s : Service) (w : World) (t : Option Text) (language : Option Text) :
    Except Fault (Option Highlight) :=
  match t with
  | none => .ok none
  | some t => (s.highlight w t language).map some

/-- What the service answers to a trigger. A change of the editor's settings matters only if it
affects the color, and has the configuration loaded anew. -/
def handle (s : Service) (w : World) (trigger : Trigger) (t : Option Text) (language : Option Text)
    (affected : List Text) : Except Fault (Option Highlight) × Service :=
  if trigger = .configurationChanged then
    if colorSetting ∈ affected then
      match s.reload w with
      | (.error e, s) => (.error e, s)
      | (.ok _, s) => (s.highlightShown w t language, s)
    else (.ok none, s)
  else (s.highlightShown w t language, s)

end Service

/-- What the service can be asked. -/
inductive Request where
  | rebuild
  | appliesTo (language : Option Text)
  | highlight (text : Text) (language : Option Text)
  | hover (text : Text) (line column : Int)
  | definition (text : Text) (line column : Int)
  | handle (trigger : Trigger) (text : Option Text) (language : Option Text)
      (affected : List Text)
  | reload
  | config

/-- What the service answers. -/
inductive Answer where
  | index (i : Index)
  | applies (b : Bool)
  | highlight (h : Option Highlight)
  | hover (h : Option Hover)
  | definition (d : Option Definition)
  | config (c : Config)

namespace Service

/-- The answer to a request, and the service after it. -/
def ask (s : Service) (w : World) : Request → Except Fault Answer × Service
  | .rebuild => ((s.index w).map .index, s)
  | .appliesTo language => (.ok (.applies (s.appliesTo language)), s)
  | .highlight t language => ((s.highlight w t language).map (.highlight ∘ some), s)
  | .hover t line column => ((s.hover w t line column).map .hover, s)
  | .definition t line column => ((s.definition w t line column).map .definition, s)
  | .handle trigger t language affected =>
    let (answer, s) := s.handle w trigger t language affected
    (answer.map .highlight, s)
  | .reload =>
    let (answer, s) := s.reload w
    (answer.map .config, s)
  | .config => (.ok (.config s.config), s)

/-- The answers to requests in their order, each asked in a world of its own, and the service after
them. -/
def run (s : Service) : List (World × Request) → List (Except Fault Answer) × Service
  | [] => ([], s)
  | (w, r) :: rest =>
    let (answer, s) := s.ask w r
    let (answers, s) := s.run rest
    (answer :: answers, s)

end Service

end Gloss
