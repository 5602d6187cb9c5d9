import Gloss.Proofs.Agreement
import Gloss.Proofs.Conversion

/-! Marks by their offsets and by their positions. The key of a note neither begins nor ends with
white space, so no mark begins or ends between a carriage return and the line feed after it, and its
positions lead back to its offsets. -/

namespace Gloss

namespace Text

variable {key front rest : Text}

theorem Trimmed.not_afterReturn_start (hkey : key.Trimmed) :
    ¬(front ++ (key ++ rest)).AfterReturn front.length := by
  obtain ⟨c, r, rfl⟩ := List.exists_cons_of_ne_nil hkey.ne_nil
  rintro ⟨-, -, hend | hfeed⟩
  · simp at hend
  · obtain rfl : c = '\n' := by simpa using hfeed
    have := hkey.head '\n' rfl
    revert this
    decide

theorem Trimmed.not_afterReturn_stop (hkey : key.Trimmed) :
    ¬(front ++ (key ++ rest)).AfterReturn (front.length + key.length) := by
  have hpos := List.length_pos_of_ne_nil hkey.ne_nil
  rintro ⟨-, hreturn, -⟩
  rw [show front.length + key.length - 1 = front.length + (key.length - 1) by omega,
    List.getElem?_append_right (by omega), Nat.add_sub_cancel_left,
    List.getElem?_append_left (by omega), ← List.getLast?_eq_getElem?] at hreturn
  exact hkey.last_ne_return hreturn

end Text

/-- A mark of a document is exact in both of its notations. Its offsets cut its key out of the text;
its positions are places on lines of the document, as many lines apart as the key has line feeds, and
lead back to its offsets. -/
structure Decoration.Exact (d : Document) (m : Decoration) : Prop where
  text : d.text.slice m.start m.stop = m.key
  start_held : d.Holds m.range.start
  stop_held : d.Holds m.range.stop
  start : d.offsetAt m.range.start.line m.range.start.character = .ok m.start
  stop : d.offsetAt m.range.stop.line m.range.stop.character = .ok m.stop
  lines : m.range.stop.line = m.range.start.line + m.key.count '\n'

/-- An occurrence of the key of a note is marked exactly, unless it begins or ends after the return
that ends a line. -/
theorem Decoration.exact_ofSpan {d : Document} {s : MatchSpan}
    (ho : s.start ∈ Text.occurrences s.note.key d.text)
    (hstop : s.stop = s.start + s.note.key.length) (hnot : ¬d.text.AfterReturn s.start)
    (hnot' : ¬d.text.AfterReturn s.stop) : (Decoration.ofSpan d s).Exact d := by
  obtain ⟨-, -, hle⟩ := Text.length_le_of_mem_occurrences ho
  rw [← hstop] at hle
  have hle' : s.start ≤ d.text.length := by omega
  refine ⟨?_, d.holds_positionAt hle' hnot, d.holds_positionAt hle hnot', ?_, ?_, ?_⟩
  · show d.text.slice s.start s.stop = s.note.key
    rw [hstop, Text.slice_of_mem_occurrences ho]
  · exact (Document.offsetAt_positionAt hle').trans (by rw [if_neg hnot]; rfl)
  · exact (Document.offsetAt_positionAt hle).trans (by rw [if_neg hnot']; rfl)
  · show (d.positionAt s.stop).line = (d.positionAt s.start).line + s.note.key.count '\n'
    rw [Document.line_positionAt hle, Document.line_positionAt hle', hstop,
      Text.take_of_mem_occurrences ho, List.count_append]

/-- The marks of trimmed keys are exact. -/
theorem exact_of_mem_decorations {notes : List Entry} {d : Document} {m : Decoration}
    (hkeys : ∀ e ∈ notes, e.key.Trimmed) (hm : m ∈ decorations notes d) : m.Exact d := by
  obtain ⟨s, hs, rfl⟩ := List.mem_map.mp hm
  obtain ⟨hnote, ho, hstop⟩ := mem_allSpans_iff.mp hs
  obtain ⟨front, rest, htext, hstart⟩ := Text.exists_append_of_mem_occurrences ho
  have hkey := hkeys _ hnote
  refine Decoration.exact_ofSpan ho hstop ?_ ?_
  · rw [htext, ← hstart]
    exact hkey.not_afterReturn_start
  · rw [htext, hstop, ← hstart]
    exact hkey.not_afterReturn_stop

/-- In a document of the language of the service, over sources that can all be read, there is one mark
for each occurrence of a key, and all marks are exact. -/
theorem highlight_marks_exact {s : Service} {w : World} {sources : List Source}
    {language : Option Text} (t : Text) (hsources : s.provider w s.config = .ok sources)
    (hreadable : ∀ x ∈ sources, x.Readable) (happlies : s.appliesTo language = true) :
    ∃ i h, Index.build sources = .ok i ∧ s.highlight w t language = .ok h ∧
      h.decorations.map (fun m => (m.key, m.start, m.stop)) =
        (allSpans i.entries t).map (fun x => (x.note.key, x.start, x.stop)) ∧
      ∀ m ∈ h.decorations, m.Exact (Document.ofText t) := by
  obtain ⟨i, hbuild⟩ := Index.exists_build hreadable
  have hkeys : ∀ e ∈ i.entries, e.key.Trimmed := fun e he => Index.key_trimmed_of_mem hbuild he
  have hindex := Service.index_of_build hsources hbuild
  refine ⟨i, _, hbuild, Service.highlight_of_index hindex happlies, ?_, fun m hm => ?_⟩
  · simp only [decorations, List.map_map]
    rfl
  · exact exact_of_mem_decorations hkeys hm

/-- A key with a line break in it, written with a return there, is marked exactly before a return, at
the end of the text and over two lines. -/
theorem highlight_marks_exact_returns :
    let s : Service :=
      ⟨⟨Path.ofText ['/'], [], Config.defaultLanguage, [], []⟩, suppliedProvider, none, 0⟩
    let w : World := ⟨⟨Disk.empty, [], [], [], ⟨none, none, none, none⟩⟩,
      [Source.ofText ['n'] [opening, ' ', 'k', '\r', '\n', 'k', '\r', closing, 'v']]⟩
    let t : Text := ['a', 'k', '\r', '\n', 'k', '\r', '\n', 'k', '\r', '\n', 'k']
    s.provider w s.config = .ok w.supplied ∧ (∀ x ∈ w.supplied, x.Readable) ∧
      s.appliesTo none = true ∧ ∃ i h, Index.build w.supplied = .ok i ∧
        s.highlight w t none = .ok h ∧
        h.decorations.map (fun m => (m.key, m.start, m.stop)) =
          (allSpans i.entries t).map (fun x => (x.note.key, x.start, x.stop)) ∧
        ∀ m ∈ h.decorations, m.Exact (Document.ofText t) := by
  intro s w t
  have hreadable : ∀ x ∈ w.supplied, x.Readable := by
    intro x hx
    obtain rfl := List.mem_singleton.mp hx
    exact ⟨_, rfl⟩
  exact ⟨rfl, hreadable, rfl, highlight_marks_exact t rfl hreadable rfl⟩

end Gloss
