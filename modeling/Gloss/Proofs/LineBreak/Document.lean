import Mathlib.Data.List.Forall2
import Gloss.Lookup
import Gloss.Proofs.Conversion
import Gloss.Proofs.LineBreak
import Gloss.Proofs.Occurrence

/-! Documents with and without a carriage return before each line feed. Their lines are the same, so a
cursor finds the same; a key without line breaks occurs at the same positions, and at offsets that are
larger by the numbers of their lines. -/

namespace Gloss

open Text

/-! ### Documents of the same lines -/

/-- The documents have the same number of lines, and the same texts on them. -/
structure Document.SameLines (d d' : Document) : Prop where
  lineCount : d'.lineCount = d.lineCount
  lineText : ∀ n < d.lineCount, d'.lineText n = d.lineText n

section SameLines

variable {d d' : Document}

theorem Document.SameLines.cursorMatch (h : d.SameLines d') (notes : List Entry)
    (line column : Int) : cursorMatch notes d' line column = cursorMatch notes d line column := by
  have hline : d'.line? line = d.line? line := by
    unfold Document.line?
    rw [h.lineCount]
  unfold Gloss.cursorMatch
  rw [hline]
  cases hn : d.line? line with
  | error e => rfl
  | ok n =>
    show Except.ok _ = Except.ok _
    rw [h.lineText n (Document.lt_of_line? hn)]

theorem Document.SameLines.hoverAt (h : d.SameLines d') (cwd : Location) (root : Option Path)
    (notes : List Entry) (line column : Int) :
    hoverAt cwd root notes d' line column = hoverAt cwd root notes d line column := by
  unfold Gloss.hoverAt
  rw [h.cursorMatch]

theorem Document.SameLines.definitionAt (h : d.SameLines d') (notes : List Entry)
    (line column : Int) : definitionAt notes d' line column = definitionAt notes d line column := by
  unfold Gloss.definitionAt
  rw [h.cursorMatch]

end SameLines

/-- A text without returns and the text with a return before each line feed have the same lines. -/
theorem sameLines_breakWith {t : Text} (h : '\r' ∉ t) :
    (Document.ofText t).SameLines (Document.ofText (t.breakWith .returnFeed)) := by
  constructor
  · rw [Document.lineCount_eq, Document.lineCount_eq]
    exact congrArg (· + 1) (count_breakWith_returnFeed t)
  · intro n hn
    obtain ⟨before, line, after, hcut, rfl⟩ := Document.exists_cut_of_lt_lineCount hn
    obtain ⟨tail, after', htail, hcut'⟩ := hcut.exists_breakWith
    have hline : '\r' ∉ line := fun hmem => h (hcut.mem_of_mem_line hmem)
    have htext := Document.lineText_of_cut (d := Document.ofText (t.breakWith .returnFeed)) hcut'
    rw [count_breakWith_returnFeed, dropReturn_append hline htail] at htext
    rw [Document.lineText_of_cut hcut, htext, dropReturn_of_not_mem hline]

/-- An offset of a text and the one that comes after as many more characters as there are line feeds
before it are the same position, with returns there. -/
theorem positionAt_breakWith {t : Text} {o : Nat} (ho : o ≤ t.length) :
    (Document.ofText (t.breakWith .returnFeed)).positionAt (o + (t.take o).count '\n' : Nat) =
      (Document.ofText t).positionAt o := by
  obtain ⟨before, line, after, q, (hcut : Cut t before line after), hq, rfl, hposition⟩ :=
    Document.exists_place (d := Document.ofText t) ho
  obtain ⟨tail, after', -, hcut'⟩ := hcut.exists_breakWith
  have hplace : before.length + q + (t.take (before.length + q)).count '\n' =
      (before.breakWith .returnFeed).length + q := by
    rw [hcut.count_take (by omega) (by omega), length_breakWith_returnFeed]
    omega
  rw [hplace, hposition,
    Document.positionAt_of_cut (d := Document.ofText (t.breakWith .returnFeed)) hcut'
      (by simp; omega), count_breakWith_returnFeed]

/-! ### Occurrences -/

section Occurrences

variable {key : Text}

theorem prefix_breakWith_iff (hreturn : '\r' ∉ key) (hfeed : '\n' ∉ key) {t : Text} :
    key <+: t.breakWith .returnFeed ↔ key <+: t := by
  induction key generalizing t with
  | nil => simp
  | cons k ks ih =>
    obtain ⟨hkr, hksr⟩ := not_or.mp (mt List.mem_cons.mpr hreturn)
    obtain ⟨hkf, hksf⟩ := not_or.mp (mt List.mem_cons.mpr hfeed)
    cases t with
    | nil => simp
    | cons c r =>
      by_cases hc : c = '\n'
      · subst hc
        simp [breakWith_returnFeed, List.cons_prefix_cons, Ne.symm hkr, Ne.symm hkf]
      · rw [breakWith_cons hc, List.cons_prefix_cons, List.cons_prefix_cons, ih hksr hksf]

theorem occurrencesFrom_breakWith (hne : key ≠ []) (hreturn : '\r' ∉ key) (hfeed : '\n' ∉ key)
    (before t : Text) :
    occurrencesFrom key (before.breakWith .returnFeed).length (t.breakWith .returnFeed) =
      (occurrencesFrom key before.length t).map
        fun o => o + ((before ++ t).take o).count '\n' := by
  generalize hhere : before.length = here
  induction here, t using occurrencesFrom.induct key generalizing before with
  | case1 here => simp
  | case2 here c r hpre ih =>
    obtain ⟨rest, hrest⟩ := List.isPrefixOf_iff_prefix.mp hpre
    have hkey : key.breakWith .returnFeed = key := breakWith_of_not_mem hfeed
    have htext : breakWith .returnFeed (c :: r) = key ++ breakWith .returnFeed rest := by
      rw [← hrest, breakWith_append, hkey]
    obtain ⟨k, ks, rfl⟩ := List.exists_cons_of_ne_nil hne
    obtain ⟨rfl, rfl⟩ : k = c ∧ ks ++ rest = r := by simpa using hrest
    -- Both searches go on behind the key, which has no break to be changed.
    have hnext := ih (before ++ k :: ks) (by simp [hhere])
    have hpre' : (k :: ks).isPrefixOf (k :: (ks ++ breakWith .returnFeed rest)) := by simp
    rw [occurrencesFrom_of_found hpre, htext, List.cons_append, occurrencesFrom_of_found hpre',
      List.map_cons]
    simp only [List.length_cons, Nat.add_sub_cancel, List.drop_left] at hnext ⊢
    congr 1
    · subst hhere
      simp [length_breakWith_returnFeed]
    · rw [breakWith_append, hkey, List.length_append, List.length_cons, List.append_assoc,
        List.cons_append] at hnext
      exact hnext
  | case3 here c r hpre ih =>
    have hnext := ih (before ++ [c]) (by simp [hhere])
    rw [List.append_assoc, List.singleton_append] at hnext
    rw [occurrencesFrom_of_absent hpre]
    by_cases hc : c = '\n'
    · -- The key begins neither at the return nor at the line feed.
      subst hc
      obtain ⟨k, ks, rfl⟩ := List.exists_cons_of_ne_nil hne
      rw [breakWith_returnFeed, occurrencesFrom_of_absent (by simp; rintro rfl; simp at hreturn),
        occurrencesFrom_of_absent (by simp; rintro rfl; simp at hfeed)]
      simpa [breakWith_append, breakWith_returnFeed] using hnext
    · have hpre' : ¬key.isPrefixOf (c :: breakWith .returnFeed r) := by
        rw [← breakWith_cons hc, List.isPrefixOf_iff_prefix, prefix_breakWith_iff hreturn hfeed,
          ← List.isPrefixOf_iff_prefix]
        exact hpre
      rw [breakWith_cons hc, occurrencesFrom_of_absent hpre']
      simpa [breakWith_append, breakWith_cons hc] using hnext

/-- The occurrences of a key without line breaks stand further on with returns, each by the number of
line feeds before it. -/
theorem occurrences_breakWith (hreturn : '\r' ∉ key) (hfeed : '\n' ∉ key) (t : Text) :
    occurrences key (t.breakWith .returnFeed) =
      (occurrences key t).map fun o => o + (t.take o).count '\n' := by
  by_cases hne : key = []
  · rw [hne, occurrences_nil, occurrences_nil, List.map_nil]
  · rw [occurrences, occurrences, if_neg hne, if_neg hne]
    exact occurrencesFrom_breakWith hne hreturn hfeed [] t

end Occurrences

/-! ### Spans -/

/-- The span `s` of `t` is the span `s'` of `t` with returns: it is one of the same note at the same
positions, all on one line, and each line before that made its offsets larger by one. -/
structure MatchSpan.Returned (t : Text) (s s' : MatchSpan) : Prop where
  note : s'.note = s.note
  range : (Document.ofText (t.breakWith .returnFeed)).rangeOf s'.start s'.stop =
    (Document.ofText t).rangeOf s.start s.stop
  one_line : ((Document.ofText t).rangeOf s.start s.stop).stop.line =
    ((Document.ofText t).rangeOf s.start s.stop).start.line
  start : s'.start = s.start + ((Document.ofText t).rangeOf s.start s.stop).start.line
  stop : s'.stop = s.stop + ((Document.ofText t).rangeOf s.start s.stop).start.line

section Spans

variable {note : Entry} {t : Text}

theorem Entry.returned_span (hfeed : '\n' ∉ note.key) {o : Nat}
    (ho : o ∈ occurrences note.key t) :
    MatchSpan.Returned t ⟨note, o, o + note.key.length⟩
      ⟨note, o + (t.take o).count '\n', o + (t.take o).count '\n' + note.key.length⟩ := by
  obtain ⟨-, -, hle⟩ := length_le_of_mem_occurrences ho
  -- The key has no line feed, so both of its ends have the same lines before them.
  have hcount : (t.take (o + note.key.length)).count '\n' = (t.take o).count '\n' := by
    rw [take_of_mem_occurrences ho, List.count_append, List.count_eq_zero.mpr hfeed, Nat.add_zero]
  have hline : ((Document.ofText t).positionAt o).line = (t.take o).count '\n' :=
    Document.line_positionAt (d := Document.ofText t) (show o ≤ t.length by omega)
  have hline' : ((Document.ofText t).positionAt (o + note.key.length : Nat)).line =
      (t.take o).count '\n' :=
    (Document.line_positionAt (d := Document.ofText t) hle).trans hcount
  have hstart := positionAt_breakWith (show o ≤ t.length by omega)
  have hstop := positionAt_breakWith hle
  rw [hcount, Nat.add_right_comm] at hstop
  refine ⟨rfl, ?_, hline'.trans hline.symm, ?_, ?_⟩
  · unfold Document.rangeOf
    rw [hstart, hstop]
  · show _ = o + ((Document.ofText t).positionAt o).line
    rw [hline]
  · show _ = o + note.key.length + ((Document.ofText t).positionAt o).line
    rw [hline, Nat.add_right_comm]

theorem Entry.spans_breakWith (hreturn : '\r' ∉ note.key) (hfeed : '\n' ∉ note.key) :
    List.Forall₂ (MatchSpan.Returned t) (note.spans t) (note.spans (t.breakWith .returnFeed)) := by
  rw [Entry.spans, Entry.spans, occurrences_breakWith hreturn hfeed, List.map_map,
    List.forall₂_map_left_iff, List.forall₂_map_right_iff, List.forall₂_same]
  intro o ho
  exact Entry.returned_span hfeed ho

theorem allSpans_breakWith {notes : List Entry}
    (hkeys : ∀ e ∈ notes, '\r' ∉ e.key ∧ '\n' ∉ e.key) :
    List.Forall₂ (MatchSpan.Returned t) (allSpans notes t)
      (allSpans notes (t.breakWith .returnFeed)) := by
  induction notes with
  | nil => exact .nil
  | cons e es ih =>
    obtain ⟨hreturn, hfeed⟩ := hkeys e List.mem_cons_self
    exact List.rel_append (Entry.spans_breakWith hreturn hfeed)
      (ih fun e' he' => hkeys e' (List.mem_cons_of_mem _ he'))

end Spans

/-- What a document answers does not depend on returns before its line feeds. A cursor finds the same
notes, or fails for the same reason; keys without line breaks have their spans at the same positions,
one by one. -/
theorem queries_ignore_returns {t : Text} (h : '\r' ∉ t) :
    (∀ (cwd : Location) (root : Option Path) (notes : List Entry) (line column : Int),
      hoverAt cwd root notes (Document.ofText (t.breakWith .returnFeed)) line column =
          hoverAt cwd root notes (Document.ofText t) line column ∧
        definitionAt notes (Document.ofText (t.breakWith .returnFeed)) line column =
          definitionAt notes (Document.ofText t) line column) ∧
      ∀ notes : List Entry, (∀ e ∈ notes, '\r' ∉ e.key ∧ '\n' ∉ e.key) →
        List.Forall₂ (MatchSpan.Returned t) (allSpans notes t)
          (allSpans notes (t.breakWith .returnFeed)) := by
  have hsame := sameLines_breakWith h
  refine ⟨fun cwd root notes line column => ⟨?_, ?_⟩, fun notes hkeys => allSpans_breakWith hkeys⟩
  · exact hsame.hoverAt cwd root notes line column
  · exact hsame.definitionAt notes line column

/-- Two keys of which one begins with the other, on the last of three lines, and a line that the text
does not have. -/
theorem queries_ignore_returns_lines :
    let t : Text := ['k', '\n', '\n', 'a', 'k', 'b', 'k']
    let notes : List Entry :=
      [⟨['k'], ['v'], [], ⟨0, 0, 4⟩⟩, ⟨['k', 'b'], ['w'], [], ⟨1, 5, 10⟩⟩]
    let returned := t.breakWith .returnFeed
    '\r' ∉ t ∧ (∀ e ∈ notes, '\r' ∉ e.key ∧ '\n' ∉ e.key) ∧
      (allSpans notes t).map (fun s => (s.start, s.stop)) = [(0, 1), (4, 5), (6, 7), (4, 6)] ∧
      (allSpans notes returned).map (fun s => (s.start, s.stop)) =
        [(0, 1), (6, 7), (8, 9), (6, 8)] ∧
      List.Forall₂ (MatchSpan.Returned t) (allSpans notes t) (allSpans notes returned) ∧
      hoverAt [] none notes (Document.ofText returned) 2 3 =
        hoverAt [] none notes (Document.ofText t) 2 3 ∧
      definitionAt notes (Document.ofText returned) 3 0 =
        definitionAt notes (Document.ofText t) 3 0 := by
  intro t notes returned
  have hreturn : '\r' ∉ t := by decide
  have hkeys : ∀ e ∈ notes, '\r' ∉ e.key ∧ '\n' ∉ e.key := by decide
  obtain ⟨hcursor, hspans⟩ := queries_ignore_returns hreturn
  refine ⟨hreturn, hkeys, ?_, ?_, hspans notes hkeys, ?_, ?_⟩
  · decide +kernel
  · decide +kernel
  · exact (hcursor [] none notes 2 3).1
  · exact (hcursor [] none notes 3 0).2

end Gloss
