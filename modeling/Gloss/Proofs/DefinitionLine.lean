import Gloss.Proofs.Lines
import Gloss.Proofs.NoteFiles
import Gloss.Proofs.Selection

/-! The lines on which notes are defined. A value runs to a line feed, so the line of a note ends
before that of the next one begins. In the index of a workspace a path and a line name one note, and
the notes stand in the order of both. -/

namespace Gloss

open Text

/-! ### Two lines with a line feed between them -/

/-- The line `s` of a text stands above the line `s'`, and ends before it begins. -/
structure LineSpan.Above (s s' : LineSpan) : Prop where
  line : s.line < s'.line
  stop : s.stop < s'.start

namespace Text

variable {t before line after : Text} {n : Nat}

/-- A line feed of a text stands before a line or after it. -/
theorem Cut.feed_outside (h : Cut t before line after) (hn : t[n]? = some '\n') :
    n < before.length ∨ before.length + line.length ≤ n := by
  by_contra hin
  obtain ⟨q, rfl⟩ : ∃ q, n = before.length + q := ⟨n - before.length, by omega⟩
  rw [h.getElem?, List.getElem?_append_left (by omega)] at hn
  exact h.no_feed (List.mem_of_getElem? hn)

theorem mem_dropReturn {c : Char} (hc : c ∈ t) (hne : c ≠ '\r') : c ∈ dropReturn t := by
  unfold dropReturn
  split
  · next hlast =>
    obtain ⟨front, rfl⟩ := List.getLast?_eq_some_iff.mp hlast
    rw [List.dropLast_concat]
    simpa [hne] using hc
  · exact hc

theorem count_take_lt {c : Char} {i j : Nat} (hn : t[n]? = some c) (hi : i ≤ n) (hj : n < j) :
    (t.take i).count c < (t.take j).count c := by
  have hnext : (t.take (n + 1)).count c = (t.take n).count c + 1 := by
    rw [List.take_add_one, hn, List.count_append]
    simp
  have hbefore := ((List.take_prefix_take_left hi : t.take i <+: t.take n).sublist).count_le c
  have hafter :=
    ((List.take_prefix_take_left hj : t.take (n + 1) <+: t.take j).sublist).count_le c
  omega

end Text

/-- Of two offsets with a line feed between them, the first lies in a line above that of the
second. -/
theorem LineSpan.above_around {t : Text} {i n j : Nat} (hn : t[n]? = some '\n') (hi : i ≤ n)
    (hnj : n < j) (hj : j ≤ t.length) :
    (LineSpan.around t i).Above (LineSpan.around t j) := by
  obtain ⟨before, line, after, hcut, hlow, hhigh⟩ := exists_cut (show i ≤ t.length by omega)
  obtain ⟨before', line', after', hcut', hlow', hhigh'⟩ := exists_cut hj
  have hline := hcut.feed_outside hn
  have hline' := hcut'.feed_outside hn
  have hdrop := length_dropReturn_le line
  have hcount := count_take_lt hn hi hnj
  rw [hcut.count_take hlow hhigh, hcut'.count_take hlow' hhigh'] at hcount
  rw [around_of_cut hcut hlow hhigh, around_of_cut hcut' hlow' hhigh']
  exact ⟨hcount, by show before.length + (dropReturn line).length < before'.length; omega⟩

/-! ### The line of a marker -/

/-- The span is that of a line of `t` which holds an opening bracket: it begins where a line begins
and holds no line feed. -/
structure LineSpan.HoldsMarker (t : Text) (s : LineSpan) : Prop where
  start_lt_stop : s.start < s.stop
  stop_le : s.stop ≤ t.length
  begins : s.start = 0 ∨ ∃ n, s.start = n + 1 ∧ t[n]? = some '\n'
  no_feed : '\n' ∉ t.slice s.start s.stop
  bracket : opening ∈ t.slice s.start s.stop

theorem LineSpan.holdsMarker_around {t : Text} {i : Nat} (hi : t[i]? = some opening) :
    (LineSpan.around t i).HoldsMarker t := by
  obtain ⟨hlt, -⟩ := List.getElem?_eq_some_iff.mp hi
  obtain ⟨before, line, after, hcut, hlow, hhigh⟩ := exists_cut (Nat.le_of_lt hlt)
  obtain ⟨q, rfl⟩ : ∃ q, i = before.length + q := ⟨i - before.length, by omega⟩
  have hq : q < line.length := by
    by_contra hge
    obtain rfl : q = line.length := by omega
    -- Just after a line stands a line feed or nothing.
    rw [hcut.getElem?, List.getElem?_append_right (Nat.le_refl _), Nat.sub_self] at hi
    rcases hcut.after_begins with rfl | ⟨back, rfl⟩
    · cases hi
    · exact absurd (Option.some.inj hi) (by decide)
  rw [hcut.getElem?, List.getElem?_append_left hq] at hi
  have hbracket : opening ∈ dropReturn line :=
    mem_dropReturn (List.mem_of_getElem? hi) (by decide)
  have hpos := List.length_pos_of_mem hbracket
  have hdrop := length_dropReturn_le line
  have hend := hcut.length_le
  rw [around_of_cut hcut hlow hhigh]
  refine ⟨?_, ?_, ?_, ?_, ?_⟩
  · show before.length < before.length + (dropReturn line).length
    omega
  · show before.length + (dropReturn line).length ≤ t.length
    omega
  · rcases hcut.before_ends with rfl | ⟨front, rfl⟩
    · exact .inl rfl
    · exact .inr ⟨front.length, by simp, by simp [hcut.eq]⟩
  · have hkept := dropReturn_prefix line
    rw [hcut.slice_dropReturn]
    exact fun hmem => hcut.no_feed (hkept.subset hmem)
  · rw [hcut.slice_dropReturn]
    exact hbracket

/-! ### The notes of a text -/

section Notes

variable {t : Text} {here : Nat} {es : List Extent}

/-- Between two selected markers the value of the first one ends at a line feed. -/
theorem Selection.above (h : Selection t here es) :
    es.Pairwise fun a b => (LineSpan.around t a.start).Above (LineSpan.around t b.start) := by
  induction es generalizing here with
  | nil => exact .nil
  | cons e es ih =>
    refine List.pairwise_cons.mpr ⟨fun d hd => ?_, ih h.tail⟩
    have hopens := (h.marker d (List.mem_cons_of_mem e hd)).opens
    obtain ⟨hlt, -⟩ := List.getElem?_eq_some_iff.mp hopens
    have hle := h.stop_le d hd
    have hinner := (h.marker e List.mem_cons_self).inner
    have hstop := h.stop e List.mem_cons_self
    have hclose := hstop.le
    rcases hstop.stops with hend | ⟨hfeed, -⟩
    · omega
    · have hne : e.stop ≠ d.start := by
        intro heq
        rw [heq, hopens] at hfeed
        exact absurd hfeed (by decide)
      exact LineSpan.above_around hfeed (by omega) (by omega) (by omega)

theorem above_readNotes (source t : Text) :
    (readNotes source t).Pairwise fun a b => a.definition.Above b.definition := by
  rw [readNotes_of_selection (selection_scan t), List.pairwise_map]
  exact (selection_scan t).above.filter _

theorem holdsMarker_of_mem_readNotes {source t : Text} {e : Entry} (he : e ∈ readNotes source t) :
    e.definition.HoldsMarker t := by
  rw [readNotes_of_selection (selection_scan t)] at he
  obtain ⟨m, hm, rfl⟩ := List.mem_map.mp he
  exact LineSpan.holdsMarker_around
    ((selection_scan t).marker m (List.mem_of_mem_filter hm)).opens

end Notes

/-! ### The notes of a workspace -/

/-- Where a note of a workspace is defined: the path of its file seen from the root, and the number
of its line. -/
def Entry.site (cwd : Location) (root : Path) (e : Entry) : Text × Nat :=
  (shownSource cwd (some root) e.source, e.definition.line)

section Workspace

variable {d : Disk} {cwd place : Location} {root : Path} {pattern : Text} {excludes : List Text}
  {f : Found} {files : List Found}

/-- The notes of a file are shown with the path on which it is found. -/
theorem shownSource_of_mem_notes (hd : d.WellFormed) (hroot : d.find cwd root = .ok place)
    (hf : IsNoteFile d place pattern excludes f) {e : Entry}
    (he : e ∈ (Source.ofFile d cwd root f).notes) :
    shownSource cwd (some root) e.source = f.path := by
  obtain ⟨t, -, he⟩ := Source.mem_notes.mp he
  rw [source_of_mem_readNotes he, name_ofFile hd hroot (hf.ledFrom hd), hf.place]
  exact shownSource_append (hd.hasNul_of_find hroot) (hd.resolve_of_find hroot)
    (hf.place ▸ hf.isName hd)

theorem site_pairwise_notes (s : Source) :
    s.notes.Pairwise fun a b => Prod.Lex (· < ·) (· < ·) (a.site cwd root) (b.site cwd root) := by
  rw [Source.notes]
  cases s.load with
  | error e => exact .nil
  | ok t =>
    refine (above_readNotes s.name t).imp_of_mem fun ha hb hab => ?_
    rw [Entry.site, Entry.site, source_of_mem_readNotes ha, source_of_mem_readNotes hb]
    exact .right _ hab.line

theorem site_pairwise_flatMap (hd : d.WellFormed) (hroot : d.find cwd root = .ok place)
    (hfiles : ∀ f ∈ files, IsNoteFile d place pattern excludes f)
    (hsorted : files.Pairwise fun a b => a.path < b.path) :
    (files.flatMap fun f => (Source.ofFile d cwd root f).notes).Pairwise fun a b =>
      Prod.Lex (· < ·) (· < ·) (a.site cwd root) (b.site cwd root) := by
  refine List.pairwise_flatMap.mpr ⟨fun f _ => site_pairwise_notes _, ?_⟩
  refine hsorted.imp_of_mem fun hf hf' hlt e he e' he' => ?_
  apply Prod.Lex.left
  rw [shownSource_of_mem_notes hd hroot (hfiles _ hf) he,
    shownSource_of_mem_notes hd hroot (hfiles _ hf') he']
  exact hlt

/-- Notes in the order of their sites are told apart by them. -/
theorem eq_of_site_eq {es : List Entry}
    (hes : (es.map (Entry.site cwd root)).Pairwise (Prod.Lex (· < ·) (· < ·))) {e e' : Entry}
    (he : e ∈ es) (he' : e' ∈ es) (heq : e.site cwd root = e'.site cwd root) : e = e' := by
  have hnodup : (es.map (Entry.site cwd root)).Nodup :=
    hes.imp fun hlt heq => by
      subst heq
      rcases Prod.lex_def.mp hlt with hpath | ⟨-, hline⟩
      · exact List.lt_irrefl _ hpath
      · exact Nat.lt_irrefl _ hline
  exact List.inj_on_of_nodup_map hnodup he he' heq

end Workspace

/-- The notes of a text are defined on lines of their own, one above the other, and each of these
lines holds an opening bracket. So the path of its file and the number of its line tell a note of a
workspace from all others, and the index holds the notes in the order of both. -/
theorem notes_on_lines_of_their_own :
    (∀ source t : Text,
      ((readNotes source t).Pairwise fun a b => a.definition.Above b.definition) ∧
      ∀ e ∈ readNotes source t, e.source = source ∧ e.definition.HoldsMarker t) ∧
    ∀ (d : Disk) (cwd : Location) (root : Path) (pattern : Text) (excludes : List Text)
      (sources : List Source), d.WellFormed → parentName ∉ (Path.ofText pattern).names →
      fileSources d cwd root pattern excludes = .ok sources →
      ∃ files i, noteFiles d cwd root pattern excludes = .ok files ∧
        Index.build sources = .ok i ∧
        (∀ e ∈ i.entries, ∃ f ∈ files, shownSource cwd (some root) e.source = f.path ∧
          e ∈ (Source.ofFile d cwd root f).notes) ∧
        (i.entries.map (Entry.site cwd root)).Pairwise (Prod.Lex (· < ·) (· < ·)) ∧
        ∀ e ∈ i.entries, ∀ e' ∈ i.entries, e.site cwd root = e'.site cwd root → e = e' := by
  refine ⟨fun source t => ⟨above_readNotes source t, fun e he =>
    ⟨source_of_mem_readNotes he, holdsMarker_of_mem_readNotes he⟩⟩, ?_⟩
  intro d cwd root pattern excludes sources hd hparent hsources
  obtain ⟨files, hfiles, hsources⟩ := bind_eq_ok_iff.mp hsources
  obtain rfl := Except.ok.inj hsources
  obtain ⟨i, hi⟩ := exists_build_ofFile d cwd root files
  have hentries : i.entries = files.flatMap fun f => (Source.ofFile d cwd root f).notes := by
    rw [Index.entries_of_build hi, List.flatMap_map]
  rcases exists_of_noteFiles_eq_ok hfiles with rfl | ⟨place, g, hroot, hdirectory, hpattern, rfl⟩
  · refine ⟨[], i, hfiles, hi, ?_⟩
    simp [hentries]
  · have hmem : ∀ f ∈ g.sortedFiles d place excludes, IsNoteFile d place pattern excludes f :=
      fun f hf => (mem_sortedFiles hd hdirectory hpattern hparent).mp hf
    have hpairs : (i.entries.map (Entry.site cwd root)).Pairwise (Prod.Lex (· < ·) (· < ·)) := by
      rw [hentries, List.pairwise_map]
      exact site_pairwise_flatMap hd hroot hmem
        (sorted_sortedFiles hd hdirectory hpattern hparent)
    refine ⟨_, i, hfiles, hi, fun e he => ?_, hpairs, ?_⟩
    · rw [hentries, List.mem_flatMap] at he
      obtain ⟨f, hf, he⟩ := he
      exact ⟨f, hf, shownSource_of_mem_notes hd hroot (hmem f hf) he, he⟩
    · exact fun e he e' he' => eq_of_site_eq hpairs he he'

/-- A file with two notes and a marker between them that stands in a value, and a file with an empty
marker. -/
def linedTree : Disk where
  items := [(["w".toList], .directory),
    (["w".toList, "a.des".toList], .file (Utf8.encode "x【k】v【l】\n\n【m】z".toList)),
    (["w".toList, "b.des".toList], .file (Utf8.encode "【】\n【k】v".toList))]

/-- The files of this tree, in the order of their paths. -/
def linedFiles : List Found :=
  [⟨["a.des".toList], ["w".toList, "a.des".toList]⟩,
    ⟨["b.des".toList], ["w".toList, "b.des".toList]⟩]

theorem wellFormed_linedTree : linedTree.WellFormed := by decide

theorem fileSources_linedTree (cwd : Location) :
    fileSources linedTree cwd ⟨.slash, ["w".toList]⟩ defaultNoteGlob [] =
      .ok (linedFiles.map (Source.ofFile linedTree cwd ⟨.slash, ["w".toList]⟩)) := by
  let glob : Glob := ⟨[.directories, .wild (Wildcard.ofText "*.des".toList)], false⟩
  have hroot : linedTree.find cwd ⟨.slash, ["w".toList]⟩ = .ok ["w".toList] := rfl
  have hpattern : Glob.ofText defaultNoteGlob = .ok glob := rfl
  exact fileSources_of_files wellFormed_linedTree hroot rfl hpattern (by decide +kernel)
    (by decide +kernel) (by decide +kernel)

/-- Two notes of one file come before the note of another whose line has a smaller number. -/
theorem notes_on_lines_of_their_own_in_two_files :
    let root : Path := ⟨.slash, ["w".toList]⟩
    linedTree.WellFormed ∧ parentName ∉ (Path.ofText defaultNoteGlob).names ∧
      ∃ sources i, fileSources linedTree [] root defaultNoteGlob [] = .ok sources ∧
        Index.build sources = .ok i ∧
        i.entries.map (Entry.site [] root) =
          [("a.des".toList, 0), ("a.des".toList, 2), ("b.des".toList, 1)] ∧
        (i.entries.map (Entry.site [] root)).Pairwise (Prod.Lex (· < ·) (· < ·)) := by
  intro root
  have hparent : parentName ∉ (Path.ofText defaultNoteGlob).names := by decide
  have hsites : (Index.build (linedFiles.map (Source.ofFile linedTree [] root))).map
      (fun i => i.entries.map (Entry.site [] root)) =
      .ok [("a.des".toList, 0), ("a.des".toList, 2), ("b.des".toList, 1)] := by
    decide +kernel
  obtain ⟨-, i, -, hi, -, hpairs, -⟩ := notes_on_lines_of_their_own.2 linedTree [] root
    defaultNoteGlob [] _ wellFormed_linedTree hparent (fileSources_linedTree [])
  rw [hi] at hsites
  exact ⟨wellFormed_linedTree, hparent, _, i, fileSources_linedTree [], hi, Except.ok.inj hsites,
    hpairs⟩

end Gloss
