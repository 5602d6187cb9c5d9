import Gloss.Proofs.Glob
import Gloss.Proofs.Index
import Gloss.Workspace

/-! The note files of a workspace: the files whose names fall into runs for the components of the
pattern and whose paths no pattern excludes, each once, in the order of their paths. -/

namespace Gloss

/-- A file below `root` that the pattern selects and no pattern excludes. -/
structure IsNoteFile (d : Disk) (root : Location) (pattern : Text) (excludes : List Text)
    (f : Found) : Prop where
  place : f.place = root ++ f.names
  isFile : d.isFile f.place = true
  names : InRuns ComponentStandsFor (Path.ofText pattern).names f.names
  ends_in_name : (Path.ofText pattern).names.getLast? ≠ some ['*', '*']
  no_slash : pattern.getLast? ≠ some '/'
  kept : ∀ glob ∈ excludes, ¬(Wildcard.ofText glob).Matches f.path

theorem isExcluded_eq_false_iff {globs : List Text} {path : Text} :
    isExcluded globs path = false ↔ ∀ glob ∈ globs, ¬(Wildcard.ofText glob).Matches path := by
  simp only [isExcluded, List.any_eq_false, Wildcard.covers_iff_matches]

namespace IsNoteFile

variable {d d' : Disk} {root : Location} {pattern : Text} {excludes : List Text} {f f' : Found}

theorem isName (hd : d.WellFormed) (h : IsNoteFile d root pattern excludes f) :
    ∀ name ∈ f.place, IsName name :=
  fun _ hname => hd.isName_of_mem (Disk.isSome_item?_of_isFile h.isFile) hname

theorem isName_of_mem_names (hd : d.WellFormed) (h : IsNoteFile d root pattern excludes f) :
    ∀ name ∈ f.names, IsName name :=
  fun name hname => h.isName hd name (h.place ▸ List.mem_append_right root hname)

theorem ledFrom (hd : d.WellFormed) (h : IsNoteFile d root pattern excludes f) :
    f.LedFrom root := by
  have hnames := h.isName_of_mem_names hd
  refine ⟨?_, Path.written_of_isName hnames⟩
  rw [h.place, Location.foldl_step fun name hname => (hnames name hname).ne_parent]

/-- Different note files are different sources. -/
theorem eq_of_place (hd : d.WellFormed) (h : IsNoteFile d root pattern excludes f)
    (h' : IsNoteFile d root pattern excludes f') (heq : f.place.toText = f'.place.toText) :
    f = f' := by
  have hplace := Location.toText_inj (h.isName hd) (h'.isName hd) heq
  rw [h.place, h'.place] at hplace
  exact (h.ledFrom hd).eq_of_names (h'.ledFrom hd) (List.append_cancel_left hplace)

end IsNoteFile

/-- The files among what a pattern selects that no pattern excludes. -/
def Glob.files (g : Glob) (d : Disk) (root : Location) (excludes : List Text) : List Found :=
  (g.select d root).filter fun f => d.isFile f.place && !isExcluded excludes f.path

/-- These files in the order of their paths. -/
def Glob.sortedFiles (g : Glob) (d : Disk) (root : Location) (excludes : List Text) : List Found :=
  (g.files d root excludes).mergeSort fun a b => Text.le a.path b.path

section NoteFiles

variable {d : Disk} {cwd place : Location} {root : Path} {pattern : Text} {g : Glob}
  {excludes : List Text} {f : Found}

theorem noteFiles_eq (hd : d.WellFormed) (hroot : d.find cwd root = .ok place)
    (hdirectory : d.isDirectory place = true) (hpattern : Glob.ofText pattern = .ok g) :
    noteFiles d cwd root pattern excludes =
      if g.meetsLongName d place then .error .nameTooLong
      else .ok (g.sortedFiles d place excludes) := by
  have hnul : ¬root.hasNul = true := Bool.eq_false_iff.mp (hd.hasNul_of_find hroot)
  simp only [noteFiles, hpattern, hroot, bind, Except.bind, if_neg hnul, hdirectory]
  cases hlong : g.meetsLongName d place with
  | false => rfl
  | true => rfl

/-- Files that are in the order of their paths are the note files in that order. -/
theorem noteFiles_of_files (hd : d.WellFormed) (hroot : d.find cwd root = .ok place)
    (hdirectory : d.isDirectory place = true) (hpattern : Glob.ofText pattern = .ok g)
    (hfits : g.meetsLongName d place = false) {files : List Found}
    (hfiles : g.files d place excludes = files)
    (hle : files.Pairwise fun a b => Text.le a.path b.path) :
    noteFiles d cwd root pattern excludes = .ok files := by
  rw [noteFiles_eq hd hroot hdirectory hpattern, hfits, Glob.sortedFiles, hfiles,
    List.mergeSort_of_pairwise hle]
  rfl

theorem exists_of_noteFiles_eq_ok {files : List Found}
    (h : noteFiles d cwd root pattern excludes = .ok files) :
    files = [] ∨ ∃ place g, d.find cwd root = .ok place ∧ d.isDirectory place = true ∧
      Glob.ofText pattern = .ok g ∧ files = g.sortedFiles d place excludes := by
  obtain ⟨g, hpattern, h⟩ := bind_eq_ok_iff.mp h
  split at h
  · exact .inl (Except.ok.inj h).symm
  · split at h
    · cases h
    · exact .inl (Except.ok.inj h).symm
    · next place hroot =>
      split at h
      · exact .inl (Except.ok.inj h).symm
      · next hdirectory =>
        split at h
        · cases h
        · have hdirectory : d.isDirectory place = true := by simpa using hdirectory
          exact .inr ⟨place, g, hroot, hdirectory, hpattern, (Except.ok.inj h).symm⟩

theorem ledFrom_of_mem_sortedFiles (hd : d.WellFormed) (hpattern : Glob.ofText pattern = .ok g)
    (hf : f ∈ g.sortedFiles d place excludes) : f.LedFrom place :=
  Glob.ledFrom_of_mem_select hd hpattern (List.mem_filter.mp (List.mem_mergeSort.mp hf)).1

theorem le_sortedFiles :
    (g.sortedFiles d place excludes).Pairwise fun a b => Text.le a.path b.path := by
  apply List.pairwise_mergeSort
  · exact fun _ _ _ => Text.le_trans
  · exact fun a b => Text.le_total a.path b.path

/-- What is found on different ways has one order by its paths. -/
theorem eq_of_le_of_perm {fs fs' : List Found} (hled : ∀ f ∈ fs, f.LedFrom place)
    (hle : fs.Pairwise fun a b => Text.le a.path b.path)
    (hle' : fs'.Pairwise fun a b => Text.le a.path b.path) (hperm : fs.Perm fs') : fs = fs' := by
  refine List.Perm.eq_of_pairwise (fun a b ha hb hab hba => ?_) hle hle' hperm
  refine (hled a ha).eq_of_path (hled b (hperm.mem_iff.mpr hb)) ?_
  by_contra hne
  exact List.lt_asymm (Text.lt_of_le_of_ne hab hne) (Text.lt_of_le_of_ne hba (Ne.symm hne))

section Sorted

variable (hd : d.WellFormed) (hdirectory : d.isDirectory place = true)
  (hpattern : Glob.ofText pattern = .ok g) (hparent : parentName ∉ (Path.ofText pattern).names)

include hd hdirectory hpattern hparent

theorem mem_sortedFiles :
    f ∈ g.sortedFiles d place excludes ↔ IsNoteFile d place pattern excludes f := by
  rw [Glob.sortedFiles, List.mem_mergeSort, Glob.files, List.mem_filter, Bool.and_eq_true,
    Bool.not_eq_true', isExcluded_eq_false_iff]
  constructor
  · rintro ⟨hselect, hfile, hkept⟩
    obtain ⟨hplace, hnames, hstars, hslash⟩ :=
      (Glob.mem_select_iff_of_isFile hd hdirectory hpattern hparent hfile).mp hselect
    exact ⟨hplace, hfile, hnames, hstars, hslash, hkept⟩
  · intro h
    exact ⟨(Glob.mem_select_iff_of_isFile hd hdirectory hpattern hparent h.isFile).mpr
      ⟨h.place, h.names, h.ends_in_name, h.no_slash⟩, h.isFile, h.kept⟩

theorem nodup_sortedFiles : (g.sortedFiles d place excludes).Nodup :=
  (List.mergeSort_perm _ _).nodup_iff.mpr
    ((Glob.nodup_select hd hdirectory hpattern hparent).filter _)

theorem sorted_sortedFiles :
    (g.sortedFiles d place excludes).Pairwise fun a b => a.path < b.path := by
  have hnodup := @nodup_sortedFiles _ _ _ _ excludes hd hdirectory hpattern hparent
  refine (le_sortedFiles.and hnodup).imp_of_mem fun ha hb hab => ?_
  refine Text.lt_of_le_of_ne hab.1 fun heq => hab.2 ?_
  exact (ledFrom_of_mem_sortedFiles hd hpattern ha).eq_of_path
    (ledFrom_of_mem_sortedFiles hd hpattern hb) heq

end Sorted

/-! ### Sources -/

theorem fileSources_eq (hd : d.WellFormed) (hroot : d.find cwd root = .ok place)
    (hdirectory : d.isDirectory place = true) (hpattern : Glob.ofText pattern = .ok g) :
    fileSources d cwd root pattern excludes =
      if g.meetsLongName d place then .error .nameTooLong
      else .ok ((g.sortedFiles d place excludes).map (Source.ofFile d cwd root)) := by
  rw [fileSources, noteFiles_eq hd hroot hdirectory hpattern]
  cases hlong : g.meetsLongName d place with
  | false => rfl
  | true => rfl

/-- Files that are in the order of their paths are sources in that order. -/
theorem fileSources_of_files (hd : d.WellFormed) (hroot : d.find cwd root = .ok place)
    (hdirectory : d.isDirectory place = true) (hpattern : Glob.ofText pattern = .ok g)
    (hfits : g.meetsLongName d place = false) {files : List Found}
    (hfiles : g.files d place excludes = files)
    (hle : files.Pairwise fun a b => Text.le a.path b.path) :
    fileSources d cwd root pattern excludes = .ok (files.map (Source.ofFile d cwd root)) := by
  rw [fileSources, noteFiles_of_files hd hroot hdirectory hpattern hfits hfiles hle]
  rfl

/-- A note file is a source named by its location. -/
theorem name_ofFile (hd : d.WellFormed) (hroot : d.find cwd root = .ok place)
    (hf : f.LedFrom place) : (Source.ofFile d cwd root f).name = f.place.toText := by
  have hresolve : (f.pathFrom root).resolve cwd = f.place := by
    rw [Found.pathFrom, Path.resolve_join, hd.resolve_of_find hroot, hf.place]
    rfl
  exact congrArg Location.toText hresolve

theorem ofFile_of_perm (hd : d.WellFormed) {d' : Disk} (hperm : d'.items.Perm d.items) :
    Source.ofFile d' cwd root = Source.ofFile d cwd root := by
  funext f
  rw [Source.ofFile, Source.ofFile, hd.content?_of_perm hperm]

theorem isolated_of_noteText {content : Bytes} {e : ReadError} (h : noteText content = .error e) :
    e.isolated = true := by
  rw [noteText] at h
  split at h
  · cases h
  · rw [← Except.error.inj h]
    rfl

/-- No file stops the building of an index. -/
theorem Source.not_faults_ofFile (d : Disk) (cwd : Location) (root : Path) (f : Found)
    (e : ReadError) : ¬(Source.ofFile d cwd root f).Faults e := by
  rintro ⟨hload, hfault⟩
  rw [load, ofFile] at hload
  have hisolated : e.isolated = true := by
    cases hcontent : d.content? f.place with
    | none =>
      simp only [hcontent, Option.map_none] at hload
      rw [← Except.error.inj hload]
      rfl
    | some content =>
      simp only [hcontent, Option.map_some] at hload
      exact isolated_of_noteText hload
  rw [hisolated] at hfault
  cases hfault

theorem exists_build_ofFile (d : Disk) (cwd : Location) (root : Path) (files : List Found) :
    ∃ i, Index.build (files.map (Source.ofFile d cwd root)) = .ok i := by
  apply Index.exists_build_iff.mpr
  intro s hs
  obtain ⟨f, -, rfl⟩ := List.mem_map.mp hs
  exact Source.not_faults_ofFile d cwd root f

theorem exists_build_of_fileSources {d : Disk} {cwd : Location} {root : Path} {glob : Text}
    {excludes : List Text} {sources : List Source}
    (h : fileSources d cwd root glob excludes = .ok sources) :
    ∃ i, Index.build sources = .ok i := by
  obtain ⟨files, -, h⟩ := bind_eq_ok_iff.mp h
  obtain rfl := Except.ok.inj h
  exact exists_build_ofFile d cwd root files

/-! ### Trees of one shape -/

section SameShape

variable {d' : Disk} (hd : d.WellFormed) (hd' : d'.WellFormed) (hshape : Disk.SameShape d' d)

include hd hd' hshape

theorem sortedFiles_eq (hpattern : Glob.ofText pattern = .ok g) :
    g.sortedFiles d' place excludes = g.sortedFiles d place excludes := by
  have hfiles : (g.files d' place excludes).Perm (g.files d place excludes) := by
    simp only [Glob.files, hshape.isFile_eq]
    exact (Glob.selectFrom_perm hd hd' hshape).filter _
  exact eq_of_le_of_perm (fun f hf => ledFrom_of_mem_sortedFiles hd' hpattern hf) le_sortedFiles
    le_sortedFiles ((List.mergeSort_perm _ _).trans (hfiles.trans (List.mergeSort_perm _ _).symm))

/-- Which files the note files are does not depend on what any file holds. -/
theorem noteFiles_of_sameShape :
    noteFiles d' cwd root pattern excludes = noteFiles d cwd root pattern excludes := by
  rw [noteFiles, noteFiles, hshape.find_eq]
  cases hpattern : Glob.ofText pattern with
  | error e => rfl
  | ok g =>
    have hsorted (place : Location) :=
      @sortedFiles_eq d place pattern g excludes d' hd hd' hshape hpattern
    simp only [Glob.sortedFiles, Glob.files] at hsorted
    simp only [bind, Except.bind, hshape.isDirectory_eq, Glob.meetsLongName_eq hd hd' hshape,
      hsorted]

end SameShape

/-! ### Lists of the same items -/

section Perm

variable {d' : Disk} (hd : d.WellFormed) (hperm : d'.items.Perm d.items)

include hd hperm

theorem noteFiles_of_perm :
    noteFiles d' cwd root pattern excludes = noteFiles d cwd root pattern excludes :=
  noteFiles_of_sameShape hd (hd.of_perm hperm) (hd.sameShape_of_perm hperm)

theorem fileSources_of_perm :
    fileSources d' cwd root pattern excludes = fileSources d cwd root pattern excludes := by
  rw [fileSources, fileSources, noteFiles_of_perm hd hperm, ofFile_of_perm hd hperm]

end Perm

/-- The note files below a directory of a tree are the files that the pattern selects and no pattern
excludes, each once and in the order of their paths, however the tree lists its items. As sources
they have different names.

The exception are patterns with a component of more than `maxNameBytes`. If the steps before it lead
anywhere, the component is looked up there, which the system refuses, and there is no list but the
error `nameTooLong`. -/
theorem noteFiles_selected (hd : d.WellFormed) (hroot : d.find cwd root = .ok place)
    (hdirectory : d.isDirectory place = true) (hpattern : Glob.ofText pattern = .ok g)
    (hparent : parentName ∉ (Path.ofText pattern).names) (excludes : List Text) :
    ∃ files sources,
      noteFiles d cwd root pattern excludes =
        (if g.meetsLongName d place then .error .nameTooLong else .ok files) ∧
      fileSources d cwd root pattern excludes =
        (if g.meetsLongName d place then .error .nameTooLong else .ok sources) ∧
      (g.meetsLongName d place = true →
        ∃ component ∈ (Path.ofText pattern).names, isTooLong component = true) ∧
      (∀ f, f ∈ files ↔ IsNoteFile d place pattern excludes f) ∧
      (files.Pairwise fun a b => a.path < b.path) ∧
      (∀ d', d'.items.Perm d.items →
        noteFiles d' cwd root pattern excludes = noteFiles d cwd root pattern excludes ∧
        fileSources d' cwd root pattern excludes = fileSources d cwd root pattern excludes) ∧
      sources.map (·.name) = files.map (·.place.toText) ∧ (sources.map (·.name)).Nodup := by
  let files := g.sortedFiles d place excludes
  have hmem {f : Found} : f ∈ files ↔ IsNoteFile d place pattern excludes f :=
    mem_sortedFiles hd hdirectory hpattern hparent
  have hsorted : files.Pairwise fun a b => a.path < b.path :=
    sorted_sortedFiles hd hdirectory hpattern hparent
  have hnames : (files.map (Source.ofFile d cwd root)).map (·.name) =
      files.map (·.place.toText) := by
    rw [List.map_map]
    exact List.map_congr_left fun f hf => name_ofFile hd hroot ((hmem.mp hf).ledFrom hd)
  refine ⟨files, files.map (Source.ofFile d cwd root), noteFiles_eq hd hroot hdirectory hpattern,
    fileSources_eq hd hroot hdirectory hpattern, Glob.exists_isTooLong_of_meetsLongName hpattern,
    fun f => hmem, hsorted, fun d' hperm => ⟨noteFiles_of_perm hd hperm,
      fileSources_of_perm hd hperm⟩, hnames, ?_⟩
  rw [hnames]
  refine List.Nodup.map_on ?_ (nodup_sortedFiles hd hdirectory hpattern hparent)
  exact fun f hf f' hf' heq => (hmem.mp hf).eq_of_place hd (hmem.mp hf') heq

end NoteFiles

/-- A note in a directory and one in a directory below it. -/
def sampleTree : Disk where
  items := [(["w".toList], .directory), (["w".toList, "b.des".toList], .file []),
    (["w".toList, "n".toList], .directory), (["w".toList, "n".toList, "a.des".toList], .file [])]

/-- The note that is farther down is found, in more ways than one, and the other is excluded. -/
theorem noteFiles_selected_nested :
    let root : Path := ⟨.slash, ["w".toList]⟩
    let pattern := "**/**/*.des".toList
    let steps := [.directories, .directories, .wild (Wildcard.ofText "*.des".toList)]
    sampleTree.WellFormed ∧ sampleTree.find [] root = .ok ["w".toList] ∧
      sampleTree.isDirectory ["w".toList] = true ∧ Glob.ofText pattern = .ok ⟨steps, false⟩ ∧
      parentName ∉ (Path.ofText pattern).names ∧
      ∃ files, noteFiles sampleTree [] root pattern ["b*".toList] = .ok files ∧
        ⟨["n".toList, "a.des".toList], ["w".toList, "n".toList, "a.des".toList]⟩ ∈ files ∧
        ⟨["b.des".toList], ["w".toList, "b.des".toList]⟩ ∉ files := by
  intro root pattern steps
  have hd : sampleTree.WellFormed := by decide
  have hroot : sampleTree.find [] root = .ok ["w".toList] := by decide
  have hpattern : Glob.ofText pattern = .ok ⟨steps, false⟩ := rfl
  have hparent : parentName ∉ (Path.ofText pattern).names := by decide
  have hends : Wildcard.ofText "*.des".toList =
      [.any, .literal '.', .literal 'd', .literal 'e', .literal 's'] := by
    simp [Wildcard.ofText]
  have hbegins : Wildcard.ofText "b*".toList = [.literal 'b', .any] := by
    simp [Wildcard.ofText]
  have hfits : Glob.meetsLongName ⟨steps, false⟩ sampleTree ["w".toList] = false := rfl
  obtain ⟨files, sources, hfiles, -, -, hmem, -⟩ :=
    noteFiles_selected hd hroot rfl hpattern hparent ["b*".toList]
  rw [hfits] at hfiles
  have hwild : HasWildcard "*.des".toList := .inl (by decide)
  have hlast : ComponentStandsFor "*.des".toList ["a.des".toList] := by
    refine .inr ⟨_, rfl, ?_⟩
    rw [if_pos hwild, hends, ← Wildcard.covers_iff_matches]
    decide
  refine ⟨hd, hroot, rfl, hpattern, hparent, files, hfiles, (hmem _).mpr ?_, fun hfile => ?_⟩
  · refine ⟨rfl, rfl, ⟨[["n".toList], [], ["a.des".toList]], ?_, rfl⟩, by decide, by decide, ?_⟩
    · exact .cons (.inl rfl) (.cons (.inl rfl) (.cons hlast .nil))
    · rw [List.forall_mem_singleton, hbegins, ← Wildcard.covers_iff_matches]
      decide
  · refine ((hmem _).mp hfile).kept _ (List.mem_singleton_self _) ?_
    rw [hbegins, ← Wildcard.covers_iff_matches]
    decide

end Gloss
