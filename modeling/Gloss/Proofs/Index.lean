import Gloss.Index
import Gloss.Proofs.Fallible
import Gloss.Proofs.Writing

/-! Where the entries of an index come from: each is a note of the text of one of its sources. -/

namespace Gloss

/-- The text of the source can be had. -/
def Source.Readable (s : Source) : Prop :=
  ∃ t, s.load = .ok t

/-- Loading the source fails with `e`, and that stops the building of an index. -/
def Source.Faults (s : Source) (e : ReadError) : Prop :=
  s.load = .error e ∧ e.isolated = false

/-- The notes of the text of a source. There are none if it cannot be had. -/
def Source.notes (s : Source) : List Entry :=
  match s.load with
  | .ok t => readNotes s.name t
  | .error _ => []

/-- What is recorded of a source. It is nothing if its text can be had. -/
def Source.failures (s : Source) : List Failure :=
  match s.load with
  | .ok _ => []
  | .error e => [⟨s.name, e.message⟩]

/-- What a source adds to an index that it does not stop. -/
def Source.part (s : Source) : Index :=
  ⟨s.notes, s.failures⟩

theorem Source.mem_notes {s : Source} {e : Entry} :
    e ∈ s.notes ↔ ∃ t, s.load = .ok t ∧ e ∈ readNotes s.name t := by
  rw [Source.notes]
  cases s.load with
  | ok t => simp
  | error e => simp

theorem Source.Readable.not_faults {s : Source} (h : s.Readable) (e : ReadError) :
    ¬s.Faults e := by
  rintro ⟨hload, -⟩
  obtain ⟨t, ht⟩ := h
  rw [ht] at hload
  cases hload

namespace Index

@[simp] theorem build_nil : build [] = .ok empty := rfl

theorem exists_of_build_cons {s : Source} {rest : List Source} {i : Index}
    (h : build (s :: rest) = .ok i) :
    ∃ first others, ofSource s = .ok first ∧ build rest = .ok others ∧ i = first ++ others := by
  obtain ⟨first, hfirst, h⟩ := bind_eq_ok_iff.mp h
  obtain ⟨others, hothers, h⟩ := bind_eq_ok_iff.mp h
  exact ⟨first, others, hfirst, hothers, (Except.ok.inj h).symm⟩

theorem ofSource_of_load {s : Source} {t : Text} (h : s.load = .ok t) :
    ofSource s = .ok ⟨readNotes s.name t, []⟩ := by
  rw [ofSource, h]
  rfl

theorem eq_of_ofSource {s : Source} {i : Index} (h : ofSource s = .ok i) :
    i = s.part := by
  rw [Source.part, Source.notes, Source.failures]
  cases hload : s.load with
  | ok t =>
    rw [ofSource_of_load hload] at h
    exact (Except.ok.inj h).symm
  | error cause =>
    rw [ofSource, hload, ofOutcome] at h
    split at h
    · exact (Except.ok.inj h).symm
    · cases h

theorem ofSource_eq_error_iff {s : Source} {e : ReadError} :
    ofSource s = .error e ↔ s.Faults e := by
  rw [ofSource, Source.Faults]
  cases hload : s.load with
  | ok t => simp [ofOutcome]
  | error cause =>
    cases hisolated : cause.isolated with
    | true =>
      simp only [ofOutcome, hisolated, if_true]
      constructor
      · rintro ⟨⟩
      · rintro ⟨heq, hfault⟩
        cases heq
        rw [hisolated] at hfault
        cases hfault
    | false =>
      simp only [ofOutcome, hisolated, Bool.false_eq_true, if_false, Except.error.injEq]
      constructor
      · rintro rfl
        exact ⟨rfl, hisolated⟩
      · exact fun h => h.1

/-- The error that stops a building is that of one of its sources. -/
theorem exists_faults_of_build_error {sources : List Source} {e : ReadError}
    (h : build sources = .error e) : ∃ s ∈ sources, s.Faults e := by
  induction sources with
  | nil => cases h
  | cons s rest ih =>
    obtain hfirst | ⟨first, -, h⟩ := bind_eq_error_iff.mp h
    · exact ⟨s, List.mem_cons_self, ofSource_eq_error_iff.mp hfirst⟩
    · obtain hothers | ⟨others, -, h⟩ := bind_eq_error_iff.mp h
      · obtain ⟨x, hx, hfaults⟩ := ih hothers
        exact ⟨x, List.mem_cons_of_mem _ hx, hfaults⟩
      · cases h

theorem not_faults_of_build {sources : List Source} {i : Index} (h : build sources = .ok i) :
    ∀ s ∈ sources, ∀ e, ¬s.Faults e := by
  induction sources generalizing i with
  | nil => simp
  | cons s rest ih =>
    obtain ⟨first, others, hfirst, hothers, -⟩ := exists_of_build_cons h
    refine List.forall_mem_cons.mpr ⟨fun e hfaults => ?_, ih hothers⟩
    rw [ofSource_eq_error_iff.mpr hfaults] at hfirst
    cases hfirst

/-- An index can be built unless a source stops that. -/
theorem exists_build_iff {sources : List Source} :
    (∃ i, build sources = .ok i) ↔ ∀ s ∈ sources, ∀ e, ¬s.Faults e := by
  constructor
  · rintro ⟨i, h⟩
    exact not_faults_of_build h
  · intro h
    cases hbuild : build sources with
    | ok i => exact ⟨i, rfl⟩
    | error e =>
      obtain ⟨s, hs, hfaults⟩ := exists_faults_of_build_error hbuild
      exact absurd hfaults (h s hs e)

/-- An index can be built from sources that can all be read. -/
theorem exists_build {sources : List Source} (h : ∀ s ∈ sources, s.Readable) :
    ∃ i, build sources = .ok i :=
  exists_build_iff.mpr fun s hs => (h s hs).not_faults

/-- An index holds the notes of its sources and what is recorded of them, in the order of the
sources. -/
theorem eq_of_build {sources : List Source} {i : Index} (h : build sources = .ok i) :
    i = ⟨sources.flatMap Source.notes, sources.flatMap Source.failures⟩ := by
  induction sources generalizing i with
  | nil => exact (Except.ok.inj (build_nil.symm.trans h)).symm
  | cons s rest ih =>
    obtain ⟨first, others, hfirst, hothers, rfl⟩ := exists_of_build_cons h
    rw [List.flatMap_cons, List.flatMap_cons, eq_of_ofSource hfirst, ih hothers]
    rfl

theorem entries_of_build {sources : List Source} {i : Index} (h : build sources = .ok i) :
    i.entries = sources.flatMap Source.notes := by
  rw [eq_of_build h]

theorem exists_source_of_mem {sources : List Source} {i : Index} {e : Entry}
    (h : build sources = .ok i) (he : e ∈ i.entries) :
    ∃ s ∈ sources, ∃ t, s.load = .ok t ∧ e ∈ readNotes s.name t := by
  rw [entries_of_build h, List.mem_flatMap] at he
  obtain ⟨s, hs, he⟩ := he
  exact ⟨s, hs, Source.mem_notes.mp he⟩

/-- The keys of an index are trimmed. -/
theorem key_trimmed_of_mem {sources : List Source} {i : Index} {e : Entry}
    (h : build sources = .ok i) (he : e ∈ i.entries) : e.key.Trimmed := by
  obtain ⟨s, -, t, -, hread⟩ := exists_source_of_mem h he
  exact (writable_of_mem_readNotes hread).key_trimmed

end Index

end Gloss
