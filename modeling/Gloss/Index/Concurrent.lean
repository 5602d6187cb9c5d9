import Gloss.Index

/-! Building an index while several sources are read at a time, each in a thread of its own. A
schedule says in which order the readings begin and end; what the index holds does not depend on
it. -/

namespace Gloss

/-- What waiting for a reading comes to that ends with the error, if to anything. The end of an
iteration cannot be handed over to what waits, which waits on forever, and an error derived from it
is taken for a result, the text that it carries. What befell a call in a thread befalls the task
that waits for it. Other errors are handed over as they are. -/
def ReadError.awaited : ReadError → Option (Except ReadError Text)
  | .fault ⟨.iterationEnd, _⟩ => none
  | .fault ⟨.derivedEnd, t⟩ => some (.ok t)
  | .fault ⟨.callCancelled, reason⟩ => some (.error (.fault ⟨.taskCancelled, reason⟩))
  | .fault ⟨.callState, reason⟩ => some (.error (.fault ⟨.taskState, reason⟩))
  | e => some (.error e)

/-- What waiting for the reading of a source comes to, if to anything. -/
def Source.awaited (s : Source) : Option (Except ReadError Text) :=
  match s.load with
  | .ok t => some (.ok t)
  | .error e => e.awaited

/-- A bound on the number of readings at a time. -/
abbrev ReadLimit := Option Nat

/-- A bound has to be 0, which stands for none, or more. -/
inductive LimitError where
  | negative
  deriving DecidableEq, Repr

def LimitError.message : LimitError → Text
  | .negative => "Semaphore initial value must be >= 0".toList

namespace ReadLimit

def ofInt : Option Int → Except LimitError ReadLimit
  | none => .ok none
  | some n => if n < 0 then .error .negative else .ok (if n = 0 then none else some n.toNat)

/-- One more reading may begin while `running` are under way. -/
def admits (limit : ReadLimit) (running : Nat) : Bool :=
  match limit with
  | none => true
  | some n => running < n

end ReadLimit

/-- The reading of the source at `place` begins, or the wait for it ends. -/
inductive ReadEvent where
  | start (place : Nat)
  | finish (place : Nat)
  deriving DecidableEq, Repr

/-- How far the reading of a source is. -/
inductive ReadState where
  | waiting
  | running
  | done (outcome : Except ReadError Text)

namespace ReadState

def isRunning : ReadState → Bool
  | .running => true
  | _ => false

def outcome? : ReadState → Option (Except ReadError Text)
  | .done outcome => some outcome
  | _ => none

end ReadState

namespace Index

/-- The states after an event, if the event can happen: a reading begins once and within the bound,
and the wait for it ends once, if it ends. Until then the reading counts as under way. -/
def afterEvent (limit : ReadLimit) (sources : List Source) (states : List ReadState) :
    ReadEvent → Option (List ReadState)
  | .start i =>
    match states[i]? with
    | some .waiting =>
      if limit.admits (states.countP (·.isRunning)) then some (states.set i .running) else none
    | _ => none
  | .finish i =>
    match states[i]?, (sources[i]?).bind Source.awaited with
    | some .running, some outcome => some (states.set i (.done outcome))
    | _, _ => none

/-- The error that ends a building early, if the event brings it. -/
def faultOf (sources : List Source) : ReadEvent → Option ReadError
  | .start _ => none
  | .finish i =>
    match (sources[i]?).bind Source.awaited with
    | some (.error e) => if e.isolated then none else some e
    | _ => none

/-- The index of sources whose readings came to the given outcomes. -/
def assemble : List Source → List (Except ReadError Text) → Except ReadError Index
  | s :: sources, o :: outcomes => do
    let first ← ofOutcome s.name o
    let others ← assemble sources outcomes
    return first ++ others
  | _, _ => .ok empty

/-- What the building comes to when the events happen from the given states on, if they can and
bring it to an end. -/
def runFrom (limit : ReadLimit) (sources : List Source) (states : List ReadState) :
    List ReadEvent → Option (Except ReadError Index)
  | [] => (states.mapM ReadState.outcome?).map (assemble sources)
  | e :: rest => do
    let states ← afterEvent limit sources states e
    match faultOf sources e with
    | some fault => return .error fault
    | none => runFrom limit sources states rest

/-- What building the index comes to under a schedule. -/
def buildConcurrently (limit : ReadLimit) (schedule : List ReadEvent) (sources : List Source) :
    Option (Except ReadError Index) :=
  runFrom limit sources (sources.map fun _ => .waiting) schedule

/-- The schedule in which each reading ends before the next one begins. -/
def oneByOne (count : Nat) : List ReadEvent :=
  (List.range count).flatMap fun i => [.start i, .finish i]

end Index

end Gloss
