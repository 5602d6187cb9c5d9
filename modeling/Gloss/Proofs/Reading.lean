import Gloss.Index.Reading
import Gloss.Proofs.Index

/-! Which readers are asked while an index is built. A source with a text at hand is not read, and
no source is read after one that stops the building. -/

namespace Gloss

/-- The reader of a source is asked with an effect, and answers what its reading comes to. -/
def Ask.after {m : Type → Type} [Monad m] (effect : Source → m Unit) : Ask m := fun s outcome => do
  effect s
  return outcome

variable {m : Type → Type} [Monad m] [LawfulMonad m] {effect : Source → m Unit}

namespace Source

/-- There is no text of the source at hand, but there is a reader for it. -/
def hasReaderOnly (s : Source) : Bool :=
  s.text.isNone && s.reading.isSome

/-- What is kept of the outcome of a source. -/
def kept (s : Source) : Except ReadError (Except ReadError Text) :=
  match s.load with
  | .ok t => .ok (.ok t)
  | .error e => if e.isolated then .ok (.error e) else .error e

/-- The sources that are read: all of them up to the first one that stops the building. -/
def reached : List Source → List Source
  | [] => []
  | s :: rest =>
    match s.kept with
    | .ok _ => s :: reached rest
    | .error _ => [s]

theorem kept_eq_error_iff {s : Source} {e : ReadError} : s.kept = .error e ↔ s.Faults e := by
  rw [← Index.ofSource_eq_error_iff, kept, Index.ofSource, Index.ofOutcome.eq_def]
  cases s.load with
  | ok t => simp
  | error cause => cases h : cause.isolated <;> simp [h]

theorem kept_of_not_faults {s : Source} (h : ∀ e, ¬s.Faults e) : s.kept = .ok s.load := by
  rw [kept]
  cases hload : s.load with
  | ok t => rfl
  | error e =>
    have hisolated : e.isolated = true := by
      by_contra hfault
      exact h e ⟨hload, Bool.eq_false_iff.mpr hfault⟩
    exact if_pos hisolated

theorem reached_append {before : List Source} (h : ∀ b ∈ before, ∀ e, ¬b.Faults e)
    (rest : List Source) : reached (before ++ rest) = before ++ reached rest := by
  induction before with
  | nil => rfl
  | cons b before ih =>
    obtain ⟨hb, hbefore⟩ := List.forall_mem_cons.mp h
    rw [List.cons_append, reached, kept_of_not_faults hb, ih hbefore]
    rfl

theorem reached_of_faults {s : Source} {e : ReadError} (h : s.Faults e) (rest : List Source) :
    reached (s :: rest) = [s] := by
  rw [reached, kept_eq_error_iff.mpr h]

/-! ### Effects -/

theorem loadBy_after (s : Source) :
    s.loadBy (Ask.after effect) = do
      forM ([s].filter hasReaderOnly) effect
      return s.load := by
  obtain ⟨name, text, reading⟩ := s
  cases text with
  | some t => simp [loadBy, load, hasReaderOnly]
  | none =>
    cases reading with
    | none => simp [loadBy, load, hasReaderOnly]
    | some outcome => simp [loadBy, load, hasReaderOnly, Ask.after]

theorem run_readBy_after (s : Source) :
    (s.readBy (Ask.after effect)).run = do
      forM ([s].filter hasReaderOnly) effect
      return s.kept := by
  rw [readBy, ExceptT.run_bind, ExceptT.run_lift, bind_map_left, loadBy_after, bind_assoc, kept]
  refine bind_congr fun _ => ?_
  rw [pure_bind]
  cases s.load with
  | ok t => rfl
  | error e => cases h : e.isolated <;> simp [h]

theorem run_mapM_readBy_after (sources : List Source) :
    (sources.mapM (readBy (Ask.after effect))).run = do
      forM ((reached sources).filter hasReaderOnly) effect
      return sources.mapM kept := by
  induction sources with
  | nil =>
    rw [List.mapM_nil, List.mapM_nil, reached, List.filter_nil, List.forM_nil, pure_bind]
    rfl
  | cons s rest ih =>
    rw [List.mapM_cons, ExceptT.run_bind, run_readBy_after, List.mapM_cons, reached]
    cases hk : s.kept with
    | error e => simp [bind, Except.bind]
    | ok o =>
      have hsplit : (s :: reached rest).filter hasReaderOnly =
        [s].filter hasReaderOnly ++ (reached rest).filter hasReaderOnly := List.filter_append [s] _
      rw [hsplit, List.forM_append, bind_assoc, bind_assoc]
      refine bind_congr fun _ => ?_
      simp only [pure_bind, ExceptT.run_bind, ih, bind_assoc]
      refine bind_congr fun _ => ?_
      cases rest.mapM kept with
      | ok os => rfl
      | error e => rfl

end Source

namespace Index

/-- Reading all sources and then putting their texts together comes to the same as adding source by
source. -/
theorem bind_assemble_kept (sources : List Source) :
    (sources.mapM Source.kept >>= assemble sources) = build sources := by
  induction sources with
  | nil => rfl
  | cons s rest ih =>
    rw [List.mapM_cons, build, ← ih]
    cases hfirst : ofSource s with
    | error e =>
      rw [Source.kept_eq_error_iff.mpr (ofSource_eq_error_iff.mp hfirst)]
      rfl
    | ok first =>
      have hkept : s.kept = .ok s.load := by
        refine Source.kept_of_not_faults fun e hfaults => ?_
        rw [ofSource_eq_error_iff.mpr hfaults] at hfirst
        cases hfirst
      -- A source that is kept adds its part, so nothing is left that stops before the others.
      have hassemble (outcomes : List (Except ReadError Text)) :
          assemble (s :: rest) (s.load :: outcomes) = (do
            let others ← assemble rest outcomes
            return first ++ others) := by
        rw [assemble, ← ofSource, hfirst]
        rfl
      rw [hkept]
      cases rest.mapM Source.kept with
      | error e => rfl
      | ok outcomes => exact hassemble outcomes

/-- Building an index has the effects of the readers that are asked, in their order, and comes to
what building it without effects comes to. -/
theorem run_buildBy_after (sources : List Source) :
    (buildBy (Ask.after effect) sources).run = do
      forM ((Source.reached sources).filter Source.hasReaderOnly) effect
      return build sources := by
  rw [buildBy, ExceptT.run_bind, Source.run_mapM_readBy_after, bind_assoc]
  refine bind_congr fun _ => ?_
  rw [pure_bind, ← bind_assemble_kept]
  cases sources.mapM Source.kept with
  | ok outcomes => rfl
  | error e => rfl

end Index

end Gloss
