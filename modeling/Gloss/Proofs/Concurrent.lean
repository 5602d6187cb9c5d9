import Mathlib.Data.List.Induction
import Gloss.Proofs.Index
import Gloss.Proofs.Schedule

/-! Building an index while sources are read at the same time. Whatever complete schedule is
followed, the index is the one that is built source by source. An error that stops the building
stops it with what the wait for the reading ends with, if that ends. -/

namespace Gloss

open ReadEvent (starts finishes)

/-! ### Waiting for a reading -/

namespace ReadError

variable {e cause : ReadError}

end ReadError

namespace Source

variable {s : Source} {e : ReadError}

end Source

/-! ### The states that a schedule leads to -/

namespace Index

section States

variable {limit : ReadLimit} {sources : List Source} {past rest : List ReadEvent} {i : Nat}
  {s : Source} {outcome : Except ReadError Text}

end States

/-! ### What a schedule comes to -/

section Run

variable {limit : ReadLimit} {sources : List Source} {past rest : List ReadEvent}
  {result : Except ReadError Index} {outcomes : List (Except ReadError Text)}

end Run

/-- A reading that ends with the end of an iteration keeps the building waiting. -/
example (reason : Text) : buildConcurrently none [.start 0, .finish 0]
    [⟨['n'], none, some (.error (.fault ⟨.iterationEnd, reason⟩))⟩] = none := rfl

end Index

end Gloss
