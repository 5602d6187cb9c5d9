import Gloss.Index.Concurrent

/-! Building an index with readers that have effects. All sources are read first, one after another,
and then their texts are put together. -/

namespace Gloss

/-- How the reader of a source is asked, when its reading comes to the given outcome. -/
abbrev Ask (m : Type → Type) := Source → Except ReadError Text → m (Except ReadError Text)

namespace Source

variable {m : Type → Type} [Monad m]

/-- The text of a source, for which its reader is asked if there is none at hand. -/
def loadBy (ask : Ask m) (s : Source) : m (Except ReadError Text) :=
  match s.text, s.reading with
  | some t, _ => return .ok t
  | none, some outcome => ask s outcome
  | none, none => return .error (.noContent s.name)

/-- What is kept of the reading of a source. An error that does not concern the source alone is
thrown. -/
def readBy (ask : Ask m) (s : Source) : ExceptT ReadError m (Except ReadError Text) := do
  match ← ExceptT.lift (s.loadBy ask) with
  | .ok t => return .ok t
  | .error e => if e.isolated then return .error e else throw e

end Source

/-- The index of the given sources, with readers that are asked one after another. -/
def Index.buildBy {m : Type → Type} [Monad m] (ask : Ask m) (sources : List Source) :
    ExceptT ReadError m Index := do
  let outcomes ← sources.mapM (Source.readBy ask)
  ExceptT.mk (pure (assemble sources outcomes))

end Gloss
