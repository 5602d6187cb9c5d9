import Gloss.Proofs.Agreement
import Gloss.Proofs.Leftmost
import Gloss.Proofs.Selection

/-! From a cursor in a document to the marker in a note source: the entry that is found is the first
one with an occurrence under the cursor, and its key, value and line are those of a marker that
stands in the text of its source. -/

namespace Gloss

open Text

/-! ### The entry under the cursor -/

/-- The column `c` of a line lies in an occurrence of the key, or at an end of it. The occurrences
that count are taken from left to right without overlap. -/
def Entry.Touched (e : Entry) (line : Text) (c : Int) : Prop :=
  ∃ os, Leftmost e.key line 0 os ∧ ∃ o ∈ os, (o : Int) ≤ c ∧ c ≤ (o + e.key.length : Nat)

/-- `e` is the first of the entries that the column touches. -/
def FirstTouched (entries : List Entry) (line : Text) (c : Int) (e : Entry) : Prop :=
  ∃ before after, entries = before ++ e :: after ∧ e.Touched line c ∧
    ∀ b ∈ before, ¬b.Touched line c

theorem FirstTouched.mem {entries : List Entry} {line : Text} {c : Int} {e : Entry}
    (h : FirstTouched entries line c e) : e ∈ entries := by
  obtain ⟨before, after, rfl, -, -⟩ := h
  exact List.mem_append_right before List.mem_cons_self

section Match

variable {entries : List Entry} {line : Text} {c : Int}

theorem MatchSpan.touches_iff {s : MatchSpan} :
    s.touches c = true ↔ (s.start : Int) ≤ c ∧ c ≤ s.stop := by
  simp [MatchSpan.touches]

theorem Entry.touched_iff {e : Entry} :
    e.Touched line c ↔ ∃ s ∈ e.spans line, s.touches c = true := by
  by_cases hkey : e.key = []
  · rw [Entry.spans_of_key_nil hkey]
    constructor
    · rintro ⟨os, hos, -⟩
      -- No list of occurrences covers those of an empty key.
      obtain ⟨o, -, hle, hlt⟩ := hos.covered 0 (Nat.le_refl _) (by simp [OccursAt, slice, hkey])
      rw [hkey] at hlt
      exact absurd hlt (by simpa using hle)
    · rintro ⟨s, hs, -⟩
      cases hs
  · constructor
    · rintro ⟨os, hos, o, ho, htouch⟩
      rw [(leftmost_iff_occurrences hkey).mp hos] at ho
      exact ⟨⟨e, o, o + e.key.length⟩, List.mem_map_of_mem ho, MatchSpan.touches_iff.mpr htouch⟩
    · rintro ⟨s, hs, htouch⟩
      obtain ⟨o, ho, rfl⟩ := List.mem_map.mp hs
      exact ⟨_, (leftmost_iff_occurrences hkey).mpr rfl, o, ho, MatchSpan.touches_iff.mp htouch⟩

theorem matchAt_eq_findSome? :
    matchAt entries line c = entries.findSome? fun e => (e.spans line).find? (·.touches c) := by
  rw [matchAt, allSpans, List.find?_flatMap]

theorem matchAt_eq_none_iff :
    matchAt entries line c = none ↔ ∀ e ∈ entries, ¬e.Touched line c := by
  simp only [matchAt_eq_findSome?, List.findSome?_eq_none_iff, List.find?_eq_none, Entry.touched_iff,
    not_exists, not_and]

/-- What is found under the cursor is an occurrence of the key of the first entry that the cursor
touches. -/
theorem firstTouched_of_matchAt {m : MatchSpan} (h : matchAt entries line c = some m) :
    FirstTouched entries line c m.note ∧ OccursAt m.note.key line m.start ∧
      m.stop = m.start + m.note.key.length ∧ (m.start : Int) ≤ c ∧ c ≤ m.stop := by
  rw [matchAt_eq_findSome?, List.findSome?_eq_some_iff] at h
  obtain ⟨before, e, after, hentries, hfound, hbefore⟩ := h
  have hspan := List.mem_of_find?_eq_some hfound
  have htouch := List.find?_some hfound
  obtain ⟨o, ho, rfl⟩ := List.mem_map.mp hspan
  refine ⟨⟨before, after, hentries, Entry.touched_iff.mpr ⟨_, hspan, htouch⟩, fun b hb => ?_⟩, ?_,
    rfl, MatchSpan.touches_iff.mp htouch⟩
  · have hnone := List.find?_eq_none.mp (hbefore b hb)
    rw [Entry.touched_iff]
    rintro ⟨s, hs, hs'⟩
    exact hnone s hs hs'
  · exact occursAt_iff.mpr (length_le_of_mem_occurrences ho).2.1

end Match

/-! ### The marker in the source -/

/-- The entry says what the marker at `m` of the text `x` says: its key and its value are those of
the marker, trimmed, and its definition is the line of the text on which the marker begins, without
the line break. -/
structure Entry.DefinedBy (e : Entry) (x : Text) (m : Extent) : Prop where
  marker : MarkerAt x m.start m.close
  stop : FirstStop x (m.close + 1) m.stop
  key : e.key = (x.slice (m.start + 1) m.close).trim
  value : e.value = (x.slice (m.close + 1) m.stop).trim
  on_line : (x.take m.start).count '\n' = e.definition.line
  line_start : (x.take e.definition.start).count '\n' = e.definition.line
  line_text : ((pieces '\n' x)[e.definition.line]?).map dropReturn =
    some (x.slice e.definition.start e.definition.stop)

/-- The line around an offset is the whole line on which the offset lies, without its break. -/
theorem LineSpan.around_spec {t : Text} {i : Nat} (hi : i ≤ t.length) :
    (t.take i).count '\n' = (LineSpan.around t i).line ∧
      (t.take (LineSpan.around t i).start).count '\n' = (LineSpan.around t i).line ∧
      ((pieces '\n' t)[(LineSpan.around t i).line]?).map dropReturn =
        some (t.slice (LineSpan.around t i).start (LineSpan.around t i).stop) := by
  obtain ⟨before, line, after, hcut, hlow, hhigh⟩ := exists_cut hi
  rw [LineSpan.around_of_cut hcut hlow hhigh]
  refine ⟨hcut.count_take hlow hhigh, ?_, ?_⟩
  · simp only [hcut.eq, List.take_left']
  · rw [hcut.getElem?_pieces, Option.map_some, hcut.slice_dropReturn]

theorem Extent.definedBy_entry {t : Text} {here : Nat} {es : List Extent} {m : Extent}
    (h : Selection t here es) (hm : m ∈ es) (source : Text) :
    (m.entry source t).DefinedBy t m := by
  have hmarker := h.marker m hm
  have hle : m.start ≤ t.length := by
    have := hmarker.inner
    have := hmarker.close_lt
    omega
  obtain ⟨hon, hstart, htext⟩ := LineSpan.around_spec hle
  exact ⟨hmarker, h.stop m hm, rfl, rfl, hon, hstart, htext⟩

/-- The notes of a source: one for each selected marker of its text whose key and value are not
blank, in the order of the text. -/
def Source.Yields (s : Source) (notes : List Entry) : Prop :=
  ∃ x es, s.load = .ok x ∧ Selection x 0 es ∧
    notes = (es.filter fun m => m.key x ≠ [] ∧ m.value x ≠ []).map (Extent.entry s.name x)

theorem Source.yields_notes {s : Source} (h : s.Readable) : s.Yields s.notes := by
  obtain ⟨x, hx⟩ := h
  refine ⟨x, _, hx, selection_scan x, ?_⟩
  rw [Source.notes, hx]
  exact readNotes_of_selection (selection_scan x) s.name

theorem Source.Yields.definedBy {s : Source} {notes : List Entry} {e : Entry} (h : s.Yields notes)
    (he : e ∈ notes) : e.source = s.name ∧ ∃ x m, s.load = .ok x ∧ e.DefinedBy x m := by
  obtain ⟨x, es, hx, hselect, rfl⟩ := h
  obtain ⟨m, hm, rfl⟩ := List.mem_map.mp he
  exact ⟨rfl, x, m, hx, Extent.definedBy_entry hselect (List.mem_of_mem_filter hm) s.name⟩

/-! ### The answers to a cursor -/

/-- The answers `target` and `hover` to a cursor in the column `c` of line `n` of a document, `line`
being the text of that line and `entries` the notes of `sources`. There is an answer exactly if the
cursor touches an entry, and then it is the first one: the target is its definition, and the hover
shows its value at an occurrence of its key around the cursor. A marker in the text of its source
defines it. -/
structure CursorLeads (sources : List Source) (entries : List Entry) (shown : Text → Text) (n : Nat)
    (line : Text) (c : Int) (target : Option Definition) (hover : Option Hover) : Prop where
  nothing : target = none ↔ ∀ e ∈ entries, ¬e.Touched line c
  both : hover = none ↔ target = none
  found : ∀ d, target = some d → ∃ e, FirstTouched entries line c e ∧
    d = ⟨e.key, e.source, e.definition⟩ ∧
    (∃ o, OccursAt e.key line o ∧ (o : Int) ≤ c ∧ c ≤ (o + e.key.length : Nat) ∧
      hover = some ⟨e.key, e.value, shown e.source, ⟨⟨n, o⟩, ⟨n, o + e.key.length⟩⟩⟩) ∧
    ∃ s ∈ sources, s.name = e.source ∧ ∃ x m, s.load = .ok x ∧ e.DefinedBy x m

theorem cursorLeads_of_matchAt {sources : List Source} (hreadable : ∀ s ∈ sources, s.Readable)
    (cwd : Location) (root : Option Path) (n : Nat) (line : Text) (c : Int) :
    CursorLeads sources (sources.flatMap Source.notes) (shownSource cwd root) n line c
      ((matchAt (sources.flatMap Source.notes) line c).map Definition.ofMatch)
      ((matchAt (sources.flatMap Source.notes) line c).map (Hover.ofMatch cwd root n)) := by
  refine ⟨?_, ?_, fun d hd => ?_⟩
  · rw [Option.map_eq_none_iff, matchAt_eq_none_iff]
  · rw [Option.map_eq_none_iff, Option.map_eq_none_iff]
  · obtain ⟨m, hm, rfl⟩ := Option.map_eq_some_iff.mp hd
    obtain ⟨hfirst, hoccurs, hstop, hlow, hhigh⟩ := firstTouched_of_matchAt hm
    refine ⟨m.note, hfirst, rfl, ⟨m.start, hoccurs, hlow, hstop ▸ hhigh, ?_⟩, ?_⟩
    · rw [hm, Option.map_some, Hover.ofMatch, hstop]
    · obtain ⟨s, hs, hnote⟩ := List.mem_flatMap.mp hfirst.mem
      obtain ⟨hname, hdefined⟩ := (Source.yields_notes (hreadable s hs)).definedBy hnote
      exact ⟨s, hs, hname.symm, hdefined⟩

/-- From readable sources an index is built, which holds what the markers of the sources say, source
by source and in the order of the texts. For each line of a document and each column, the answers to
a cursor there lead to the marker of the first entry that the cursor touches. -/
theorem cursor_leads_to_marker {sources : List Source} (hreadable : ∀ s ∈ sources, s.Readable) :
    ∃ i notes, Index.build sources = .ok i ∧ List.Forall₂ Source.Yields sources notes ∧
      i.entries = notes.flatten ∧
      ∀ (d : Document) (n : Nat) (line : Text), (pieces '\n' d.text)[n]? = some line →
        ∀ (c : Int) (cwd : Location) (root : Option Path), ∃ target hover,
          definitionAt i.entries d n c = .ok target ∧
          hoverAt cwd root i.entries d n c = .ok hover ∧
          CursorLeads sources i.entries (shownSource cwd root) n (dropReturn line) c target
            hover := by
  obtain ⟨i, hbuild⟩ := Index.exists_build hreadable
  have hentries := Index.entries_of_build hbuild
  refine ⟨i, sources.map Source.notes, hbuild, ?_, hentries, fun d n line hline c cwd root => ?_⟩
  · rw [List.forall₂_map_right_iff, List.forall₂_same]
    exact fun s hs => Source.yields_notes (hreadable s hs)
  · obtain ⟨hn, htext⟩ := Document.lineText_of_getElem?_pieces hline
    refine ⟨_, _, definitionAt_of_lt hn c, hoverAt_of_lt hn c, ?_⟩
    rw [htext, hentries]
    exact cursorLeads_of_matchAt hreadable cwd root n (dropReturn line) c

/-- Two sources have a note of the same key. The marker of the first one stands within a line, after
an empty pair of brackets, and its value runs over a carriage return. -/
theorem cursor_leads_to_marker_shared :
    let sources := [Source.ofText ['a'] ['\n', opening, closing, opening, ' ', 'k', closing, 'v',
        '\r', '\n', 'w'], Source.ofText ['b'] [opening, 'k', closing, 'x']]
    (∀ s ∈ sources, s.Readable) ∧
      ∃ i notes, Index.build sources = .ok i ∧ List.Forall₂ Source.Yields sources notes ∧
        i.entries = notes.flatten ∧ ∃ target hover,
          definitionAt i.entries (Document.ofText ['k', '\r', '\n', 'k', 'k']) 1 1 = .ok target ∧
          hoverAt [] none i.entries (Document.ofText ['k', '\r', '\n', 'k', 'k']) 1 1 =
            .ok hover ∧
          CursorLeads sources i.entries (shownSource [] none) 1 ['k', 'k'] 1 target hover := by
  intro sources
  have hreadable : ∀ s ∈ sources, s.Readable := by
    intro s hs
    rcases List.mem_cons.mp hs with rfl | hs
    · exact ⟨_, rfl⟩
    · obtain rfl := List.mem_singleton.mp hs
      exact ⟨_, rfl⟩
  obtain ⟨i, notes, hbuild, hyields, hentries, hcursor⟩ := cursor_leads_to_marker hreadable
  refine ⟨hreadable, i, notes, hbuild, hyields, hentries, ?_⟩
  exact hcursor (Document.ofText ['k', '\r', '\n', 'k', 'k']) 1 ['k', 'k'] rfl 1 [] none

end Gloss
