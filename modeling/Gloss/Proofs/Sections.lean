import Mathlib.Data.List.Basic
import Mathlib.Tactic.SplitIfs
import Gloss.Proofs.Lines
import Gloss.Proofs.Scan

/-! Note texts put together from sections, each of which begins with a bracket on a line of its own.
As long as no bracket is left open, the notes of the whole are the notes of the sections. -/

namespace Gloss

/-- A line, seen from a text that has the lines of `above` above it. -/
def LineSpan.below (above : Text) (s : LineSpan) : LineSpan where
  line := s.line + (above.count '\n' + 1)
  start := s.start + (above.length + 1)
  stop := s.stop + (above.length + 1)

/-- An entry, seen from a text that has the lines of `above` above it. -/
def Entry.below (above : Text) (e : Entry) : Entry :=
  { e with definition := e.definition.below above }

variable {above below : Text}

/-- The lines of a text stay as they are when others follow below. -/
theorem LineSpan.around_append_lines {i : Nat} (hi : i ≤ above.length) (below : Text) :
    LineSpan.around (above ++ '\n' :: below) i = LineSpan.around above i := by
  obtain ⟨before, line, after, hcut, hlow, hhigh⟩ := Text.exists_cut hi
  rw [LineSpan.around_of_cut hcut hlow hhigh,
    LineSpan.around_of_cut (hcut.append_lines below) hlow hhigh]

/-- The lines of a text move down when it stands below others. -/
theorem LineSpan.around_prepend_lines {i : Nat} (hi : i ≤ below.length) (above : Text) :
    LineSpan.around (above ++ '\n' :: below) (above.length + 1 + i : Nat) =
      (LineSpan.around below i).below above := by
  obtain ⟨before, line, after, hcut, hlow, hhigh⟩ := Text.exists_cut hi
  have hlen : (above ++ '\n' :: before).length = above.length + 1 + before.length := by
    rw [List.length_append, List.length_cons]
    omega
  have hcount : (above ++ '\n' :: before).count '\n' =
      above.count '\n' + (before.count '\n' + 1) := by
    simp
  rw [LineSpan.around_of_cut hcut hlow hhigh,
    LineSpan.around_of_cut (hcut.prepend_lines above) (by omega) (by omega), hlen, hcount]
  simp only [LineSpan.below, LineSpan.mk.injEq]
  omega

theorem Candidate.Stands.start_le {t before after : Text} {c : Candidate}
    (h : c.Stands 0 t before after) : c.start ≤ t.length := by
  rw [h.start, h.eq, List.length_append]
  omega

theorem Candidate.entry?_append_lines {source : Text} {c : Candidate} (hc : c.start ≤ above.length)
    (below : Text) : c.entry? source (above ++ '\n' :: below) = c.entry? source above := by
  simp only [Candidate.entry?, LineSpan.around_append_lines hc]

theorem Candidate.entry?_prepend_lines {source : Text} {c : Candidate} (hc : c.start ≤ below.length)
    (above : Text) :
    Candidate.entry? source (above ++ '\n' :: below) (c.shift (above.length + 1)) =
      (c.entry? source below).map (Entry.below above) := by
  have haround := LineSpan.around_prepend_lines hc above
  simp only [Candidate.entry?, Candidate.shift, haround]
  split_ifs with hblank
  · rfl
  · rfl

theorem readNotes_append (source : Text) (habove : Closed above)
    (hbelow : below.head? = some opening) :
    readNotes source (above ++ '\n' :: below) =
      readNotes source above ++ (readNotes source below).map (Entry.below above) := by
  have hshift := scan_shift (above.length + 1) 0 below
  have hscan : scan 0 (above ++ '\n' :: below) =
      scan 0 above ++ (scan 0 below).map (Candidate.shift (above.length + 1)) := by
    rw [scan_append_break habove hbelow, Nat.zero_add, ← hshift, Nat.add_zero]
  rw [readNotes, hscan, List.filterMap_append, List.filterMap_map]
  congr 1
  · refine List.filterMap_congr fun c hc => ?_
    obtain ⟨before, after, hs⟩ := exists_stands_of_mem_scan hc
    exact Candidate.entry?_append_lines hs.start_le below
  · rw [readNotes, List.map_filterMap]
    refine List.filterMap_congr fun c hc => ?_
    obtain ⟨before, after, hs⟩ := exists_stands_of_mem_scan hc
    exact Candidate.entry?_prepend_lines hs.start_le above

theorem Closed.append_lines (habove : Closed above) (hbelow : Closed below) :
    Closed (above ++ '\n' :: below) := by
  refine habove.append (closed_cons_iff.mpr ⟨fun h => ?_, hbelow⟩)
  cases h

/-- The notes of a closed text and of one below it that begins with a bracket are those of the two,
the latter moved down. So a section between them changes no note above it, and moves those below it
by its own lines and characters. -/
theorem readNotes_of_sections (source above below : Text) (habove : Closed above)
    (hbelow : below.head? = some opening) :
    readNotes source (above ++ '\n' :: below) =
        readNotes source above ++ (readNotes source below).map (Entry.below above) ∧
      ∀ middle, Closed middle → middle.head? = some opening →
        readNotes source (above ++ '\n' :: (middle ++ '\n' :: below)) =
          readNotes source above ++ ((readNotes source middle).map (Entry.below above) ++
            (readNotes source below).map (Entry.below (above ++ '\n' :: middle))) := by
  refine ⟨readNotes_append source habove hbelow, fun middle hmiddle hhead => ?_⟩
  have hassoc : above ++ '\n' :: (middle ++ '\n' :: below) =
      (above ++ '\n' :: middle) ++ '\n' :: below := by simp
  rw [hassoc, readNotes_append source (habove.append_lines hmiddle) hbelow,
    readNotes_append source habove hhead, List.append_assoc]

/-- An empty pair of brackets and a blank line stand before the section below. -/
theorem readNotes_of_sections_blank :
    Closed [opening, closing, opening, 'a', closing, 'x', '\n'] ∧
      [opening, 'b', closing, 'y'].head? = some opening ∧
      readNotes [] ([opening, closing, opening, 'a', closing, 'x', '\n'] ++
          '\n' :: [opening, 'b', closing, 'y']) =
        readNotes [] [opening, closing, opening, 'a', closing, 'x', '\n'] ++
          (readNotes [] [opening, 'b', closing, 'y']).map
            (Entry.below [opening, closing, opening, 'a', closing, 'x', '\n']) :=
  ⟨by decide, rfl, (readNotes_of_sections [] _ _ (by decide) rfl).1⟩

end Gloss
