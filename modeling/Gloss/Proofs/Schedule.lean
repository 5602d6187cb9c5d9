import Mathlib.Data.List.Induction
import Mathlib.Data.List.Infix
import Mathlib.Data.List.Nodup
import Mathlib.Data.List.Perm.Subperm
import Gloss.Index.Concurrent

/-! Schedules of the reading of sources. A schedule is possible if each reading begins once, ends
after that, and begins only when the bound leaves room for it. -/

namespace Gloss

namespace ReadEvent

/-- The place of the source that is read. -/
def place : ReadEvent → Nat
  | .start i => i
  | .finish i => i

def isStart : ReadEvent → Bool
  | .start _ => true
  | .finish _ => false

/-- The number of readings that begin in a schedule. -/
def starts (schedule : List ReadEvent) : Nat :=
  schedule.countP (·.isStart)

/-- The number of readings that end in a schedule. -/
def finishes (schedule : List ReadEvent) : Nat :=
  schedule.countP (!·.isStart)

@[simp] theorem starts_nil : starts [] = 0 := rfl

@[simp] theorem finishes_nil : finishes [] = 0 := rfl

variable (past : List ReadEvent) (i : Nat)

end ReadEvent

open ReadEvent (starts finishes)

/-- A schedule that the readings of `count` sources can follow, to their end or up to some moment:
each begins and ends at most once and ends after it began, and at no moment are more under way than
the limit says. -/
structure Possible (limit : ReadLimit) (count : Nat) (schedule : List ReadEvent) : Prop where
  nodup : schedule.Nodup
  inside : ∀ e ∈ schedule, e.place < count
  begun : ∀ past, past <+: schedule → ∀ i, .finish i ∈ past → .start i ∈ past
  bounded : ∀ n, limit = some n → ∀ past, past <+: schedule → starts past ≤ finishes past + n

section Schedules

variable {limit : ReadLimit} {count : Nat} {past rest : List ReadEvent} {i : Nat}

/-- A possible schedule has at most two events for each source. -/
theorem Possible.length_le (h : Possible limit count past) : past.length ≤ 2 * count := by
  have hsub : past ⊆ Index.oneByOne count := by
    intro e he
    have hplace := h.inside e he
    rw [Index.oneByOne, List.mem_flatMap]
    refine ⟨e.place, List.mem_range.mpr hplace, ?_⟩
    cases e <;> simp [ReadEvent.place]
  have hlen := (List.Nodup.subperm h.nodup hsub).length_le
  rw [Index.oneByOne, List.length_flatMap] at hlen
  simp at hlen
  omega

end Schedules

end Gloss
