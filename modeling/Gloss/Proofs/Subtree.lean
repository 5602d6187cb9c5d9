import Gloss.Proofs.NoteFiles

/-! Patterns that exclude what is below a directory. The path of a directory with `/**` after it
matches the paths that go on from there, and so it takes the files below that directory out of the
note files and no others. -/

namespace Gloss

/-! ### Patterns with a plain beginning -/

namespace Wildcard

theorem ofText_append {t : Text} (ht : ¬HasWildcard t) (s : Text) :
    ofText (t ++ s) = t.map .literal ++ ofText s := by
  induction t with
  | nil => rfl
  | cons c r ih =>
    simp only [HasWildcard, List.mem_cons, not_or] at ht
    obtain ⟨⟨hstar, hr⟩, ⟨hone, hr'⟩, ⟨hset, hr''⟩⟩ := ht
    have hrest : ¬HasWildcard r := by simp [HasWildcard, hr, hr', hr'']
    rw [List.cons_append, ofText, if_neg (Ne.symm hstar), if_neg (Ne.symm hone),
      if_neg (Ne.symm hset), ih hrest]
    rfl

/-- Characters at the front of a pattern stand at the front of what it matches. -/
theorem matches_literals {t path : Text} {w : Wildcard} :
    Matches (t.map .literal ++ w) path ↔ ∃ rest, t ++ rest = path ∧ w.Matches rest := by
  induction t generalizing path with
  | nil => simp
  | cons c r ih =>
    have hone := standsFor_one (p := .literal c) Wild.noConfusion
    rw [List.map_cons, List.cons_append]
    cases path with
    | nil =>
      refine iff_of_false (not_inRuns_one_nil hone) ?_
      rintro ⟨rest, heq, -⟩
      cases heq
    | cons d path =>
      rw [Matches, inRuns_one_cons hone]
      change _ ∧ Matches (r.map .literal ++ w) path ↔ _
      rw [ih]
      simp [Wild.admits, List.cons_append, List.cons.injEq, and_assoc, eq_comm]

end Wildcard

/-- The pattern of what is below a directory. -/
def subtreeGlob (dir : Text) : Text :=
  dir ++ "/**".toList

section Patterns

variable {dir path : Text}

/-- The pattern matches the paths that go on from the directory, whatever follows. -/
theorem matches_subtreeGlob (hdir : ¬HasWildcard dir) :
    (Wildcard.ofText (subtreeGlob dir)).Matches path ↔ dir ++ ['/'] <+: path := by
  have hplain : ¬HasWildcard (dir ++ ['/']) := by
    simpa [HasWildcard] using hdir
  have hstars : Wildcard.ofText ['*', '*'] = [.any, .any] := by simp [Wildcard.ofText]
  have hany (rest : Text) : Wildcard.Matches [.any, .any] rest :=
    ⟨[rest, []], .cons (.inl rfl) (.cons (.inl rfl) .nil), by simp⟩
  have hglob : subtreeGlob dir = dir ++ ['/'] ++ ['*', '*'] := by
    rw [List.append_assoc]
    rfl
  rw [hglob, Wildcard.ofText_append hplain, hstars, Wildcard.matches_literals]
  constructor
  · rintro ⟨rest, heq, -⟩
    exact ⟨rest, heq⟩
  · rintro ⟨rest, heq⟩
    exact ⟨rest, heq, hany rest⟩

theorem isExcluded_append (globs globs' : List Text) (path : Text) :
    isExcluded (globs ++ globs') path = (isExcluded globs path || isExcluded globs' path) :=
  List.any_append

theorem isExcluded_subtreeGlob (hdir : ¬HasWildcard dir) :
    isExcluded [subtreeGlob dir] path = true ↔ dir ++ ['/'] <+: path := by
  rw [← matches_subtreeGlob hdir, ← Wildcard.covers_iff_matches, isExcluded, List.any_cons,
    List.any_nil, Bool.or_false]

/-- Neither the order of patterns nor their number matters. -/
theorem isExcluded_congr {globs globs' : List Text} (h : ∀ glob, glob ∈ globs ↔ glob ∈ globs') :
    isExcluded globs = isExcluded globs' := by
  funext path
  rw [Bool.eq_iff_iff, isExcluded, isExcluded, List.any_eq_true, List.any_eq_true]
  simp only [h]

end Patterns

/-! ### Paths below a directory -/

/-- The location lies below `top`. -/
def Location.IsBelow (top place : Location) : Prop :=
  top <+: place ∧ top ≠ place

instance (top place : Location) : Decidable (top.IsBelow place) :=
  inferInstanceAs (Decidable (_ ∧ _))

theorem Location.isBelow_append_iff {place dirs names : Location} :
    Location.IsBelow (place ++ dirs) (place ++ names) ↔
      ∃ rest, rest ≠ [] ∧ names = dirs ++ rest := by
  rw [IsBelow, List.prefix_append_right_inj, ne_eq, List.append_cancel_left_eq]
  constructor
  · rintro ⟨⟨rest, rfl⟩, hne⟩
    exact ⟨rest, fun hnil => hne (by rw [hnil, List.append_nil]), rfl⟩
  · rintro ⟨rest, hrest, rfl⟩
    exact ⟨List.prefix_append dirs rest, fun heq => hrest (List.self_eq_append_right.mp heq)⟩

/-- The relative path of a directory as it is: no name is missing, and none is that of this
directory or of its parent. -/
def Text.Normal (dir : Text) : Prop :=
  ∀ name ∈ Text.pieces '/' dir, name ≠ [] ∧ name ≠ ['.'] ∧ name ≠ parentName

instance (dir : Text) : Decidable dir.Normal :=
  inferInstanceAs (Decidable (∀ name ∈ Text.pieces '/' dir, _))

theorem Text.Normal.ofText_eq {dir : Text} (hdir : dir.Normal) :
    Path.ofText dir = ⟨.relative, Text.pieces '/' dir⟩ := by
  refine (Path.mk.injEq ..).mpr ⟨Path.anchor_ofText_of_head? fun hhead => ?_, ?_⟩
  · -- A slash at the front has an empty name before it.
    obtain ⟨rest, rfl⟩ := List.head?_eq_some_iff.mp hhead
    exact (hdir [] (by simp [Text.pieces])).1 rfl
  · refine List.filter_eq_self.mpr fun name hname => ?_
    obtain ⟨hne, hhere, -⟩ := hdir name hname
    exact decide_eq_true ⟨hne, hhere⟩

/-- The location of the directory `dir` as seen from `root`. -/
theorem Text.Normal.resolve_join {dir : Text} (hdir : dir.Normal) (root : Path) (cwd : Location) :
    (root.join (Path.ofText dir)).resolve cwd = root.resolve cwd ++ Text.pieces '/' dir := by
  rw [Path.resolve_join, hdir.ofText_eq]
  exact Location.foldl_step fun name hname => (hdir name hname).2.2

/-- The path of what was found goes on from a directory just if its names do. -/
theorem Found.prefix_path_iff {f : Found} (hf : Path.Written ⟨.relative, f.names⟩) {dir : Text} :
    dir ++ ['/'] <+: f.path ↔ ∃ rest, rest ≠ [] ∧ f.names = Text.pieces '/' dir ++ rest := by
  by_cases hnil : f.names = []
  · rw [path, hnil]
    refine iff_of_false (fun h => ?_) ?_
    · have hslash : '/' ∈ Path.toText ⟨.relative, []⟩ := h.subset (by simp)
      exact absurd hslash (by decide)
    · rintro ⟨rest, -, heq⟩
      exact Text.pieces_ne_nil '/' dir (List.append_eq_nil_iff.mp heq.symm).1
  · rw [path, Path.toText, if_neg fun h => hnil h.2]
    exact Text.append_sep_prefix_join_iff hnil fun name hname => (hf name hname).2.2

/-! ### Note files -/

section NoteFiles

variable {d : Disk} {cwd place : Location} {root : Path} {pattern : Text} {g : Glob}
  {excludes : List Text}

theorem sortedFiles_append (hd : d.WellFormed) (hpattern : Glob.ofText pattern = .ok g)
    (more : List Text) : g.sortedFiles d place (excludes ++ more) =
      (g.sortedFiles d place excludes).filter fun f => !isExcluded more f.path := by
  have hfiles : g.files d place (excludes ++ more) =
      (g.files d place excludes).filter fun f => !isExcluded more f.path := by
    rw [Glob.files, Glob.files, List.filter_filter]
    refine List.filter_congr fun f _ => ?_
    rw [isExcluded_append, Bool.not_or, ← Bool.and_assoc, Bool.and_comm]
  refine eq_of_le_of_perm (fun f hf => ledFrom_of_mem_sortedFiles hd hpattern hf) le_sortedFiles
    (le_sortedFiles.filter _) ?_
  rw [Glob.sortedFiles, hfiles]
  exact (List.mergeSort_perm _ _).trans ((List.mergeSort_perm _ _).symm.filter _)

/-- More patterns that exclude take files out and leave the others in their order. -/
theorem noteFiles_append (hd : d.WellFormed) (more : List Text) :
    noteFiles d cwd root pattern (excludes ++ more) =
      (noteFiles d cwd root pattern excludes).map
        (List.filter fun f => !isExcluded more f.path) := by
  rw [noteFiles, noteFiles]
  cases hpattern : Glob.ofText pattern with
  | error e => rfl
  | ok g =>
    have hsorted (place : Location) :=
      @sortedFiles_append d place pattern g excludes hd hpattern more
    simp only [Glob.sortedFiles, Glob.files] at hsorted
    simp only [bind, Except.bind, hsorted]
    split
    · rfl
    · split
      · rfl
      · rfl
      · split
        · rfl
        · split
          · rfl
          · rfl

/-- The order of the patterns that exclude does not matter, nor whether one is repeated. -/
theorem noteFiles_congr {excludes' : List Text}
    (h : ∀ glob, glob ∈ excludes ↔ glob ∈ excludes') :
    noteFiles d cwd root pattern excludes = noteFiles d cwd root pattern excludes' := by
  simp only [noteFiles, isExcluded_congr h]

end NoteFiles

/-- The path of a directory without wildcards, with `/**` after it, excludes the paths that begin with
that of the directory and a slash, whatever follows. Added to any patterns it takes the files below
the directory out of the note files, and the others keep their order. How often and in which order
patterns are given makes no difference. -/
theorem subtree_excluded {dir : Text} (hplain : ¬HasWildcard dir) (hnormal : dir.Normal) :
    (∀ excludes path, isExcluded (excludes ++ [subtreeGlob dir]) path = true ↔
      isExcluded excludes path = true ∨ dir ++ ['/'] <+: path) ∧
    (∀ (d : Disk) (cwd : Location) (root : Path) (pattern : Text) (excludes : List Text),
      d.WellFormed → parentName ∉ (Path.ofText pattern).names →
        noteFiles d cwd root pattern (excludes ++ [subtreeGlob dir]) =
          (noteFiles d cwd root pattern excludes).map (List.filter fun f =>
            ¬((root.join (Path.ofText dir)).resolve cwd).IsBelow f.place)) ∧
    ∀ (d : Disk) (cwd : Location) (root : Path) (pattern : Text) (excludes excludes' : List Text),
      (∀ glob, glob ∈ excludes ↔ glob ∈ excludes') →
        noteFiles d cwd root pattern excludes = noteFiles d cwd root pattern excludes' := by
  refine ⟨fun excludes path => ?_, fun d cwd root pattern excludes hd hparent => ?_,
    fun d cwd root pattern excludes excludes' => noteFiles_congr⟩
  · rw [isExcluded_append, Bool.or_eq_true, isExcluded_subtreeGlob hplain]
  · rw [noteFiles_append hd]
    cases hfiles : noteFiles d cwd root pattern excludes with
    | error e => rfl
    | ok files =>
      refine congrArg Except.ok (List.filter_congr fun f hf => ?_)
      rcases exists_of_noteFiles_eq_ok hfiles with rfl | ⟨place, g, hroot, hdirectory, hpattern, rfl⟩
      · cases hf
      · have hfile := (mem_sortedFiles hd hdirectory hpattern hparent).mp hf
        have hbelow : isExcluded [subtreeGlob dir] f.path = true ↔
            ((root.join (Path.ofText dir)).resolve cwd).IsBelow f.place := by
          rw [isExcluded_subtreeGlob hplain, Found.prefix_path_iff (hfile.ledFrom hd).written,
            hnormal.resolve_join, hd.resolve_of_find hroot, hfile.place,
            Location.isBelow_append_iff]
        rw [Bool.eq_iff_iff, Bool.not_eq_true', decide_eq_true_iff, ← hbelow, Bool.not_eq_true]

/-- A directory with a file farther down, and a file and a directory whose names begin as its own. -/
def besideTree : Disk where
  items := [(["w".toList], .directory), (["w".toList, "d".toList], .directory),
    (["w".toList, "d".toList, "e".toList], .directory),
    (["w".toList, "d".toList, "e".toList, "a.des".toList], .file []),
    (["w".toList, "d2".toList], .directory),
    (["w".toList, "d2".toList, "a.des".toList], .file []),
    (["w".toList, "d.des".toList], .file [])]

/-- The file below the directory goes, and those beside it stay. -/
theorem subtree_excluded_beside :
    let root : Path := ⟨.slash, ["w".toList]⟩
    let dir : Text := "d".toList
    let paths (excludes : List Text) : Except GlobError (List Text) :=
      (noteFiles besideTree [] root defaultNoteGlob excludes).map (List.map Found.path)
    ¬HasWildcard dir ∧ dir.Normal ∧ besideTree.WellFormed ∧
      parentName ∉ (Path.ofText defaultNoteGlob).names ∧
      isExcluded [subtreeGlob dir] "d/\n/[x".toList = true ∧
      paths [] = .ok ["d.des".toList, "d/e/a.des".toList, "d2/a.des".toList] ∧
      paths [subtreeGlob dir] = .ok ["d.des".toList, "d2/a.des".toList] ∧
      paths [subtreeGlob dir, "x".toList, subtreeGlob dir] = paths ["x".toList, subtreeGlob dir] := by
  intro root dir paths
  have hplain : ¬HasWildcard dir := by decide
  have hnormal : dir.Normal := by decide
  have hd : besideTree.WellFormed := by decide
  have hparent : parentName ∉ (Path.ofText defaultNoteGlob).names := by decide
  obtain ⟨hexcluded, hremoved, hsame⟩ := subtree_excluded hplain hnormal
  let glob : Glob := ⟨[.directories, .wild (Wildcard.ofText "*.des".toList)], false⟩
  let files : List Found := [⟨["d.des".toList], ["w".toList, "d.des".toList]⟩,
    ⟨["d".toList, "e".toList, "a.des".toList], ["w".toList, "d".toList, "e".toList, "a.des".toList]⟩,
    ⟨["d2".toList, "a.des".toList], ["w".toList, "d2".toList, "a.des".toList]⟩]
  have hroot : besideTree.find [] root = .ok ["w".toList] := rfl
  have hpattern : Glob.ofText defaultNoteGlob = .ok glob := rfl
  have hfiles : noteFiles besideTree [] root defaultNoteGlob [] = .ok files :=
    noteFiles_of_files hd hroot rfl hpattern (by decide +kernel) (by decide +kernel)
      (by decide +kernel)
  refine ⟨hplain, hnormal, hd, hparent, (hexcluded [] _).mpr (.inr (by decide)), ?_, ?_, ?_⟩
  · exact congrArg (Except.map (List.map Found.path)) hfiles
  · have hbeside := hremoved besideTree [] root defaultNoteGlob [] hd hparent
    rw [hfiles] at hbeside
    exact (congrArg (Except.map (List.map Found.path)) hbeside).trans (by decide +kernel)
  · have hnames : ∀ glob, glob ∈ [subtreeGlob dir, "x".toList, subtreeGlob dir] ↔
        glob ∈ ["x".toList, subtreeGlob dir] := by
      simp
    exact congrArg (Except.map _) (hsame besideTree [] root defaultNoteGlob _ _ hnames)

end Gloss
