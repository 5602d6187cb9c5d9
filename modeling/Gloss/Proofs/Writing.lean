import Mathlib.Data.List.Infix
import Gloss.Proofs.Scan

/-! Notes as they are written, and their reading back. The notes of any text can be written, and
notes that can be written are read back as they were. -/

namespace Gloss

/-- A key and a value that can be written as a note and read back. -/
structure Writable (key value : Text) : Prop where
  key_trimmed : key.Trimmed
  value_trimmed : value.Trimmed
  not_mem_key : closing ∉ key
  unbroken : ¬valueBreak <:+: value

theorem writable_iff {key value : Text} : Writable key value ↔
    (key.Trimmed ∧ value.Trimmed) ∧ closing ∉ key ∧ ¬valueBreak <:+: value :=
  ⟨fun h => ⟨⟨h.key_trimmed, h.value_trimmed⟩, h.not_mem_key, h.unbroken⟩,
    fun h => ⟨h.1.1, h.1.2, h.2.1, h.2.2⟩⟩

instance (key value : Text) : Decidable (Writable key value) :=
  decidable_of_iff _ writable_iff.symm

/-- A note as it is written: the key between brackets, then the value. -/
def writeNote (n : Text × Text) : Text :=
  opening :: (n.1 ++ closing :: n.2)

/-- Notes as they are written, each on lines of its own. -/
def writeNotes (ns : List (Text × Text)) : Text :=
  Text.join ['\n'] (ns.map writeNote)

/-- The key and the value of an entry. -/
def Entry.content (e : Entry) : Text × Text :=
  (e.key, e.value)

/-- The key and the value of a marker, as written. -/
def Candidate.content (c : Candidate) : Text × Text :=
  (c.key, c.value)

@[simp] theorem writeNotes_nil : writeNotes [] = [] := rfl

@[simp] theorem writeNotes_singleton (n : Text × Text) : writeNotes [n] = writeNote n := rfl

theorem writeNotes_cons_cons (n m : Text × Text) (ns : List (Text × Text)) :
    writeNotes (n :: m :: ns) = writeNote n ++ '\n' :: writeNotes (m :: ns) := by
  simp [writeNotes, Text.join]

theorem head?_writeNotes_cons (n : Text × Text) (ns : List (Text × Text)) :
    (writeNotes (n :: ns)).head? = some opening := by
  cases ns with
  | nil => rfl
  | cons m ns => rw [writeNotes_cons_cons]; rfl

/-- A written note begins with its marker, whatever follows it. -/
theorem marker?_writeNote {n : Text × Text} (h : Writable n.1 n.2) (s : Text) :
    marker? (writeNote n ++ s) = some (n.1, n.2 ++ s) :=
  marker?_eq_some_iff.mpr ⟨by simp [writeNote], h.key_trimmed.ne_nil, h.not_mem_key⟩

/-- The markers of written notes are the notes. Each value ends at the line feed after it: it has no
break of its own, and the next note begins with a bracket. -/
theorem scan_writeNotes {ns : List (Text × Text)} (h : ∀ n ∈ ns, Writable n.1 n.2) (here : Nat) :
    (scan here (writeNotes ns)).map Candidate.content = ns := by
  induction ns generalizing here with
  | nil => simp
  | cons n ns ih =>
    have hn := h n (by simp)
    have ih := ih fun m hm => h m (List.mem_cons_of_mem _ hm)
    have hvalue := splitValue_of_not_infix hn.unbroken
    cases ns with
    | nil =>
      have hm := marker?_writeNote hn []
      rw [List.append_nil, List.append_nil] at hm
      rw [writeNotes_singleton, scan_of_marker hm, hvalue, scan_nil]
      rfl
    | cons m ns =>
      have hm := marker?_writeNote hn ('\n' :: writeNotes (m :: ns))
      have hsplit := splitValue_append_break (head?_writeNotes_cons m ns) n.2
      rw [hvalue, List.nil_append] at hsplit
      have hfeed : marker? ('\n' :: writeNotes (m :: ns)) = none := by simp [marker?, opening]
      rw [writeNotes_cons_cons, scan_of_marker hm, hsplit, List.map_cons, scan_of_no_marker hfeed,
        ih]
      rfl

theorem Candidate.entry?_of_trimmed {source t : Text} {c : Candidate} (hk : c.key.Trimmed)
    (hv : c.value.Trimmed) :
    c.entry? source t = some ⟨c.key, c.value, source, LineSpan.around t c.start⟩ := by
  refine Candidate.entry?_eq_some_iff.mpr ?_
  rw [hk.trim_eq, hv.trim_eq]
  exact ⟨hk.ne_nil, hv.ne_nil, rfl⟩

/-- Markers with trimmed keys and values stand for entries with just these. -/
theorem content_filterMap_entry? {source t : Text} {cs : List Candidate}
    (h : ∀ c ∈ cs, c.key.Trimmed ∧ c.value.Trimmed) :
    (cs.filterMap (Candidate.entry? source t)).map Entry.content = cs.map Candidate.content := by
  rw [List.map_filterMap, ← List.filterMap_eq_map]
  refine List.filterMap_congr fun c hc => ?_
  rw [Candidate.entry?_of_trimmed (h c hc).1 (h c hc).2]
  rfl

theorem content_readNotes_writeNotes {ns : List (Text × Text)} (h : ∀ n ∈ ns, Writable n.1 n.2)
    (source : Text) : (readNotes source (writeNotes ns)).map Entry.content = ns := by
  have hscan := scan_writeNotes h 0
  rw [readNotes, content_filterMap_entry? fun c hc => ?_, hscan]
  have hmem : c.content ∈ ns := hscan ▸ List.mem_map_of_mem hc
  exact ⟨(h _ hmem).key_trimmed, (h _ hmem).value_trimmed⟩

/-- The note of an entry can be written. -/
theorem writable_of_mem_readNotes {source t : Text} {e : Entry} (he : e ∈ readNotes source t) :
    Writable e.key e.value := by
  obtain ⟨c, before, after, hs, hce⟩ := exists_of_mem_readNotes he
  obtain ⟨hk, hv, rfl⟩ := Candidate.entry?_eq_some_iff.mp hce
  refine ⟨Text.trimmed_trim hk, Text.trimmed_trim hv, fun hmem => ?_, fun hbreak => ?_⟩
  · exact hs.not_mem_key ((Text.trim_infix c.key).subset hmem)
  · exact hs.unbroken (hbreak.trans (Text.trim_infix c.value))

/-- Reading and writing are inverse: what is read from a text can be written, notes that can be
written are read back as they were, and so the notes of a text survive being written anew. -/
theorem reading_inverts_writing :
    (∀ source t, ∀ e ∈ readNotes source t, Writable e.key e.value) ∧
    (∀ source ns, (∀ n ∈ ns, Writable n.1 n.2) →
      (readNotes source (writeNotes ns)).map Entry.content = ns) ∧
    ∀ source source' t,
      (readNotes source' (writeNotes ((readNotes source t).map Entry.content))).map
        Entry.content = (readNotes source t).map Entry.content := by
  refine ⟨fun source t e he => writable_of_mem_readNotes he,
    fun source ns h => content_readNotes_writeNotes h source, fun source source' t => ?_⟩
  refine content_readNotes_writeNotes (fun n hn => ?_) source'
  obtain ⟨e, he, rfl⟩ := List.mem_map.mp hn
  exact writable_of_mem_readNotes he

/-- A key over two lines, the second of which begins with a bracket, and a value with a marker and
an open bracket in it are read back. -/
theorem reading_inverts_writing_nested :
    (∀ n ∈ [(['a', '\n', opening, 'b'], ['v', opening, 'c', closing, 'w', opening]),
          (['k'], ['x'])], Writable n.1 n.2) ∧
      (readNotes [] (writeNotes
          [(['a', '\n', opening, 'b'], ['v', opening, 'c', closing, 'w', opening]),
            (['k'], ['x'])])).map Entry.content =
        [(['a', '\n', opening, 'b'], ['v', opening, 'c', closing, 'w', opening]), (['k'], ['x'])] :=
  ⟨by decide, reading_inverts_writing.2.1 [] _ (by decide)⟩

end Gloss
