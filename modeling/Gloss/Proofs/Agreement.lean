import Gloss.Proofs.Document
import Gloss.Proofs.Index
import Gloss.Proofs.Occurrence
import Gloss.Service

/-! Marks and cursor agree: a mark of a key on one line is found by a cursor anywhere in it, and
what a cursor finds is marked. -/

namespace Gloss

/-! ### One key on one line -/

section Keys

variable {d : Document} {key : Text}

theorem Text.Trimmed.last_ne_return (h : key.Trimmed) : key.getLast? ≠ some '\r' := by
  intro hlast
  have := h.last '\r' hlast
  revert this
  decide

/-- What is found on a line of a document is found in the document, at the same place. -/
theorem occurrence_of_line {n q : Nat} (hkey : key.Trimmed) (hn : n < d.lineCount)
    (hq : q ∈ Text.occurrences key (d.lineText n)) :
    '\n' ∉ key ∧ ∃ o ∈ Text.occurrences key d.text,
      d.rangeOf o (o + key.length : Nat) = ⟨⟨n, q⟩, ⟨n, q + key.length⟩⟩ := by
  obtain ⟨before, line, after, hcut, rfl⟩ := Document.exists_cut_of_lt_lineCount hn
  rw [Document.lineText_of_cut hcut, Text.occurrences_dropReturn hkey.last_ne_return] at hq
  obtain ⟨hne, hfound, hle⟩ := Text.length_le_of_mem_occurrences hq
  have hfeed : '\n' ∉ key := fun hmem =>
    hcut.no_feed (List.mem_of_mem_drop (hfound.subset hmem))
  refine ⟨hfeed, before.length + q, ?_, ?_⟩
  · exact (Text.mem_occurrences_of_cut hcut hne hfeed (by omega)).mpr hq
  · rw [Document.rangeOf, Document.positionAt_of_cut hcut (by omega), Nat.add_assoc,
      Document.positionAt_of_cut hcut hle]

/-- What is found in a document, and has no line feed, is found on one line of it, at the same
place. -/
theorem occurrence_on_line {o : Nat} (hkey : key.Trimmed) (hfeed : '\n' ∉ key)
    (ho : o ∈ Text.occurrences key d.text) :
    ∃ n < d.lineCount, ∃ q ∈ Text.occurrences key (d.lineText n),
      d.rangeOf o (o + key.length : Nat) = ⟨⟨n, q⟩, ⟨n, q + key.length⟩⟩ := by
  obtain ⟨hne, -, hle⟩ := Text.length_le_of_mem_occurrences ho
  have ho' : o ≤ d.text.length := by omega
  obtain ⟨before, line, after, hcut, hlow, hhigh⟩ := Text.exists_cut ho'
  obtain ⟨q, rfl⟩ : ∃ q, o = before.length + q := ⟨o - before.length, by omega⟩
  have hq := (Text.mem_occurrences_of_cut hcut hne hfeed (by omega)).mp ho
  obtain ⟨-, -, hqle⟩ := Text.length_le_of_mem_occurrences hq
  refine ⟨_, Document.count_lt_lineCount hcut, q, ?_, ?_⟩
  · rwa [Document.lineText_of_cut hcut, Text.occurrences_dropReturn hkey.last_ne_return]
  · rw [Document.rangeOf, Document.positionAt_of_cut hcut (by omega), Nat.add_assoc,
      Document.positionAt_of_cut hcut hqle]

end Keys

/-! ### Marks and the cursor -/

section Notes

variable {notes : List Entry} {d : Document}

theorem mem_allSpans_iff {t : Text} {m : MatchSpan} :
    m ∈ allSpans notes t ↔ m.note ∈ notes ∧ m.start ∈ Text.occurrences m.note.key t ∧
      m.stop = m.start + m.note.key.length := by
  rw [allSpans, List.mem_flatMap]
  constructor
  · rintro ⟨note, hnote, hm⟩
    obtain ⟨o, ho, rfl⟩ := List.mem_map.mp hm
    exact ⟨hnote, ho, rfl⟩
  · rintro ⟨hnote, ho, hstop⟩
    refine ⟨m.note, hnote, List.mem_map.mpr ⟨m.start, ho, ?_⟩⟩
    rw [← hstop]

/-- A mark of a key without a line feed lies on one line, and a cursor in it finds a note. -/
theorem match_of_decoration (hkeys : ∀ e ∈ notes, e.key.Trimmed) {m : Decoration}
    (hm : m ∈ decorations notes d) (hfeed : '\n' ∉ m.key) :
    ∃ n < d.lineCount, m.range.start.line = n ∧ m.range.stop.line = n ∧
      ∀ c : Int, m.range.start.character ≤ c → c ≤ m.range.stop.character →
        ∃ found, matchAt notes (d.lineText n) c = some found := by
  obtain ⟨span, hspan, rfl⟩ := List.mem_map.mp hm
  obtain ⟨hnote, ho, hstop⟩ := mem_allSpans_iff.mp hspan
  obtain ⟨n, hn, q, hq, hrange⟩ := occurrence_on_line (hkeys _ hnote) hfeed ho
  rw [← hstop] at hrange
  refine ⟨n, hn, ?_, ?_, fun c hlow hhigh => ?_⟩
  · rw [Decoration.ofSpan, hrange]
  · rw [Decoration.ofSpan, hrange]
  · rw [Decoration.ofSpan, hrange] at hlow hhigh
    refine Option.isSome_iff_exists.mp (List.find?_isSome.mpr
      ⟨⟨span.note, q, q + span.note.key.length⟩, mem_allSpans_iff.mpr ⟨hnote, hq, rfl⟩, ?_⟩)
    simp only [MatchSpan.touches, Bool.and_eq_true, decide_eq_true_eq]
    exact ⟨hlow, hhigh⟩

/-- What a cursor finds on a line has no line feed and is marked there. -/
theorem decoration_of_match (hkeys : ∀ e ∈ notes, e.key.Trimmed) {n : Nat} (hn : n < d.lineCount)
    {c : Int} {found : MatchSpan} (h : matchAt notes (d.lineText n) c = some found) :
    found.note ∈ notes ∧ '\n' ∉ found.note.key ∧
      ∃ m ∈ decorations notes d, m.key = found.note.key ∧
        m.range = ⟨⟨n, found.start⟩, ⟨n, found.stop⟩⟩ := by
  obtain ⟨hnote, hq, hstop⟩ := mem_allSpans_iff.mp (List.mem_of_find?_eq_some h)
  obtain ⟨hfeed, o, ho, hrange⟩ := occurrence_of_line (hkeys _ hnote) hn hq
  refine ⟨hnote, hfeed, Decoration.ofSpan d ⟨found.note, o, o + found.note.key.length⟩,
    List.mem_map_of_mem (mem_allSpans_iff.mpr ⟨hnote, ho, rfl⟩), rfl, ?_⟩
  rw [Decoration.ofSpan, hrange, hstop]

theorem cursorMatch_of_lt {n : Nat} (hn : n < d.lineCount) (c : Int) :
    cursorMatch notes d n c = .ok ((matchAt notes (d.lineText n) c).map (n, ·)) := by
  rw [cursorMatch, Document.line?_of_lt hn]
  rfl

theorem hoverAt_of_lt {cwd : Location} {root : Option Path} {n : Nat} (hn : n < d.lineCount)
    (c : Int) : hoverAt cwd root notes d n c =
      .ok ((matchAt notes (d.lineText n) c).map (Hover.ofMatch cwd root n)) := by
  rw [hoverAt, cursorMatch_of_lt hn]
  simp only [bind, Except.bind, pure, Except.pure, Option.map_map]
  rfl

theorem definitionAt_of_lt {n : Nat} (hn : n < d.lineCount) (c : Int) :
    definitionAt notes d n c =
      .ok ((matchAt notes (d.lineText n) c).map Definition.ofMatch) := by
  rw [definitionAt, cursorMatch_of_lt hn]
  simp only [bind, Except.bind, pure, Except.pure, Option.map_map]
  rfl

end Notes

/-! ### The service -/

namespace Service

variable {s : Service} {w : World} {i : Index} {t : Text}

theorem index_of_build {sources : List Source} (hsources : s.provider w s.config = .ok sources)
    (hbuild : Index.build sources = .ok i) : s.index w = .ok i := by
  rw [index, hsources]
  simp only [bind, Except.bind, hbuild]
  rfl

theorem highlight_of_index {language : Option Text} (hindex : s.index w = .ok i)
    (happlies : s.appliesTo language = true) :
    s.highlight w t language = .ok ⟨s.config.color, decorations i.entries (Document.ofText t)⟩ := by
  rw [highlight, if_pos happlies, hindex]
  rfl

theorem hover_eq (hindex : s.index w = .ok i) (t : Text) (line column : Int) :
    s.hover w t line column = (hoverAt w.session.cwd (some s.config.root) i.entries
      (Document.ofText t) line column).mapError .position := by
  rw [hover, hindex]
  rfl

theorem hover_of_index (hindex : s.index w = .ok i) {n : Nat}
    (hn : n < (Document.ofText t).lineCount) (c : Int) :
    s.hover w t n c = .ok ((matchAt i.entries ((Document.ofText t).lineText n) c).map
      (Hover.ofMatch w.session.cwd (some s.config.root) n)) := by
  rw [hover_eq hindex, hoverAt_of_lt hn]
  rfl

theorem definition_eq (hindex : s.index w = .ok i) (t : Text) (line column : Int) :
    s.definition w t line column =
      (definitionAt i.entries (Document.ofText t) line column).mapError .position := by
  rw [definition, hindex]
  rfl

theorem definition_of_index (hindex : s.index w = .ok i) {n : Nat}
    (hn : n < (Document.ofText t).lineCount) (c : Int) :
    s.definition w t n c = .ok ((matchAt i.entries ((Document.ofText t).lineText n) c).map
      Definition.ofMatch) := by
  rw [definition_eq hindex, definitionAt_of_lt hn]
  rfl

end Service

/-- The marks `h` of the text `t` and what a service says to a cursor in `t` agree, `entries` being
the notes that it knows. A mark of a key without a line feed lies on one line, and a cursor anywhere
in it, its ends included, gets a hover and a definition. A cursor on a line gets both or neither.
What it gets comes from one entry, with a key without a line feed, and is marked at the range that
the hover shows. -/
structure CursorAgrees (s : Service) (w : World) (t : Text) (entries : List Entry)
    (h : Highlight) : Prop where
  marks_found : ∀ m ∈ h.decorations, '\n' ∉ m.key →
    ∃ n < (Document.ofText t).lineCount, m.range.start.line = n ∧ m.range.stop.line = n ∧
      ∀ c : Int, m.range.start.character ≤ c → c ≤ m.range.stop.character →
        (∃ hover, s.hover w t n c = .ok (some hover)) ∧
          ∃ target, s.definition w t n c = .ok (some target)
  both_or_neither : ∀ n < (Document.ofText t).lineCount, ∀ c : Int,
    ∃ hover target, s.hover w t n c = .ok hover ∧ s.definition w t n c = .ok target ∧
      (hover = none ↔ target = none)
  found_marked : ∀ n < (Document.ofText t).lineCount, ∀ (c : Int) (hover : Hover),
    s.hover w t n c = .ok (some hover) →
      '\n' ∉ hover.key ∧ (∃ m ∈ h.decorations, m.key = hover.key ∧ m.range = hover.range) ∧
        ∃ e ∈ entries, hover.key = e.key ∧ hover.text = e.value ∧
          hover.provenance = shownSource w.session.cwd (some s.config.root) e.source ∧
          s.definition w t n c = .ok (some ⟨e.key, e.source, e.definition⟩)

/-- Marks and cursor agree, if all sources can be read and the document is of the language of the
service. -/
theorem highlight_agrees_with_cursor {s : Service} {w : World} {sources : List Source}
    {language : Option Text} (t : Text) (hsources : s.provider w s.config = .ok sources)
    (hreadable : ∀ x ∈ sources, x.Readable) (happlies : s.appliesTo language = true) :
    ∃ i h, Index.build sources = .ok i ∧ s.highlight w t language = .ok h ∧
      CursorAgrees s w t i.entries h := by
  obtain ⟨i, hbuild⟩ := Index.exists_build hreadable
  have hindex := Service.index_of_build hsources hbuild
  have hkeys : ∀ e ∈ i.entries, e.key.Trimmed := fun e he => Index.key_trimmed_of_mem hbuild he
  refine ⟨i, _, hbuild, Service.highlight_of_index hindex happlies, ?_, fun n hn c => ?_,
    fun n hn c hover hhover => ?_⟩
  · intro m hm hfeed
    obtain ⟨n, hn, hstart, hstop, hcursor⟩ := match_of_decoration hkeys hm hfeed
    refine ⟨n, hn, hstart, hstop, fun c hlow hhigh => ?_⟩
    obtain ⟨found, hfound⟩ := hcursor c hlow hhigh
    rw [Service.hover_of_index hindex hn, Service.definition_of_index hindex hn, hfound]
    exact ⟨⟨_, rfl⟩, ⟨_, rfl⟩⟩
  · refine ⟨_, _, Service.hover_of_index hindex hn c, Service.definition_of_index hindex hn c, ?_⟩
    rw [Option.map_eq_none_iff, Option.map_eq_none_iff]
  · rw [Service.hover_of_index hindex hn, Except.ok.injEq] at hhover
    obtain ⟨found, hfound, rfl⟩ := Option.map_eq_some_iff.mp hhover
    obtain ⟨hnote, hfeed, hmark⟩ := decoration_of_match hkeys hn hfound
    refine ⟨hfeed, hmark, found.note, hnote, rfl, rfl, rfl, ?_⟩
    rw [Service.definition_of_index hindex hn, hfound]
    rfl

/-- Over a note in hand, the marks of a text with both kinds of line breaks agree with the
cursor. -/
theorem highlight_agrees_with_cursor_supplied :
    let s : Service :=
      ⟨⟨Path.ofText ['/'], [], Config.defaultLanguage, [], []⟩, suppliedProvider, none, 0⟩
    let w : World := ⟨⟨Disk.empty, [], [], [], ⟨none, none, none, none⟩⟩,
      [Source.ofText ['n'] [opening, 'k', closing, 'v']]⟩
    s.provider w s.config = .ok w.supplied ∧ (∀ x ∈ w.supplied, x.Readable) ∧
      s.appliesTo none = true ∧ ∃ i h, Index.build w.supplied = .ok i ∧
        s.highlight w ['a', 'k', '\r', '\n', 'k', 'k', '\n', 'k'] none = .ok h ∧
        CursorAgrees s w ['a', 'k', '\r', '\n', 'k', 'k', '\n', 'k'] i.entries h := by
  intro s w
  have hreadable : ∀ x ∈ w.supplied, x.Readable := by
    intro x hx
    obtain rfl := List.mem_singleton.mp hx
    exact ⟨_, rfl⟩
  exact ⟨rfl, hreadable, rfl, highlight_agrees_with_cursor _ rfl hreadable rfl⟩

end Gloss
