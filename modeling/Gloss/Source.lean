import Gloss.Note.Basic
import Gloss.Text.Utf8

/-! Note sources: texts at hand, or texts that are read when they are needed. -/

namespace Gloss

/-- The class of an error that concerns more than one source, as far as it matters when a source is
read in a thread of its own. `iterationEnd` tells that an iteration is at its end, and `derivedEnd`
is a class derived from that one, with a text as its value. The last four tell that something was
cancelled, or is not in the state for what was asked of it: a call in a thread, or a task that
waits. -/
inductive FaultClass where
  | other
  | iterationEnd
  | derivedEnd
  | callCancelled
  | callState
  | taskCancelled
  | taskState
  deriving DecidableEq, Repr

/-- An error that concerns more than one source, and what it says. -/
structure Raised where
  kind : FaultClass
  reason : Text
  deriving DecidableEq, Repr

/-- A reason alone is that of an error of no special class. -/
instance : Coe Text Raised := ⟨fun reason => ⟨.other, reason⟩⟩

instance : Coe Raised Text := ⟨Raised.reason⟩

/-- Why the text of a note source cannot be had. -/
inductive ReadError where
  | noContent (source : Text)
  | system (reason : Text)
  | undecodable (cause : Utf8.Error)
  | fault (raised : Raised)
  deriving DecidableEq, Repr

namespace ReadError

/-- The error concerns this source alone. Any other stops the building of an index. -/
def isolated : ReadError → Bool
  | .fault _ => false
  | _ => true

def message : ReadError → Text
  | .noContent source => "Note source has neither text nor a reader: ".toList ++ source
  | .system reason => reason
  | .undecodable cause => cause.message
  | .fault raised => raised

end ReadError

/-- A note source: its name with a text, with what reading it comes to, or with neither. -/
structure Source where
  name : Text
  text : Option Text
  reading : Option (Except ReadError Text)

namespace Source

def ofText (name t : Text) : Source :=
  ⟨name, some t, none⟩

/-- The text at hand, even an empty one, goes before what reading would give. -/
def load (s : Source) : Except ReadError Text :=
  match s.text, s.reading with
  | some t, _ => .ok t
  | none, some outcome => outcome
  | none, none => .error (.noContent s.name)

end Source

end Gloss
