import Gloss.Proofs.NoteFiles
import Gloss.Proofs.NoteText

/-! The index of the note files of a workspace. It depends on the texts of the files and not on the
form in which they stand there, and a damaged file is left out of it without harm to the others. -/

namespace Gloss

/-- An index of texts that can all be had holds their notes and no failure. -/
theorem Index.build_of_load {α : Type} {as : List α} {source : α → Source} {text : α → Text}
    (h : ∀ a ∈ as, (source a).load = .ok (text a)) :
    build (as.map source) = .ok ⟨as.flatMap fun a => readNotes (source a).name (text a), []⟩ := by
  induction as with
  | nil => rfl
  | cons a as ih =>
    obtain ⟨ha, has⟩ := List.forall_mem_cons.mp h
    rw [List.map_cons, build, ofSource_of_load ha, ih has]
    rfl

/-- The note files of a tree are `files`, and their index `i` is made of the parts that they add, in
their order. If the pattern is refused, the files are not found out. -/
structure Indexed (d : Disk) (cwd : Location) (root : Path) (pattern : Text) (excludes : List Text)
    (refused : Bool) (files : List Found) (parts : Found → Index) (i : Index) : Prop where
  noteFiles : noteFiles d cwd root pattern excludes =
    if refused then .error .nameTooLong else .ok files
  built : ∃ sources, fileSources d cwd root pattern excludes =
    (if refused then .error .nameTooLong else .ok sources) ∧ Index.build sources = .ok i
  part : ∀ f ∈ files, ∃ content, d.content? f.place = some content ∧
    FilePart f.place.toText content (parts f)
  entries : i.entries = files.flatMap fun f => (parts f).entries
  failures : i.failures = files.flatMap fun f => (parts f).failures

variable {d : Disk} {cwd place : Location} {root : Path} {pattern : Text} {g : Glob}
  {excludes : List Text} {f : Found}

theorem load_ofFile {content : Bytes} (h : d.content? f.place = some content) :
    (Source.ofFile d cwd root f).load = noteText content := by
  rw [Source.load, Source.ofFile, h]
  rfl

theorem isFile_of_mem_sortedFiles (hf : f ∈ g.sortedFiles d place excludes) :
    d.isFile f.place = true :=
  ((Bool.and_eq_true _ _).mp (List.mem_filter.mp (List.mem_mergeSort.mp hf)).2).1

theorem exists_indexed (hd : d.WellFormed) (hroot : d.find cwd root = .ok place)
    (hdirectory : d.isDirectory place = true) (hpattern : Glob.ofText pattern = .ok g)
    (excludes : List Text) :
    ∃ i, Indexed d cwd root pattern excludes (g.meetsLongName d place)
      (g.sortedFiles d place excludes) (fun f => (Source.ofFile d cwd root f).part) i := by
  obtain ⟨i, hbuild⟩ := exists_build_ofFile d cwd root (g.sortedFiles d place excludes)
  refine ⟨i, noteFiles_eq hd hroot hdirectory hpattern,
    ⟨_, fileSources_eq hd hroot hdirectory hpattern, hbuild⟩, fun f hf => ?_, ?_, ?_⟩
  · obtain ⟨content, hitem⟩ := Disk.isFile_iff.mp (isFile_of_mem_sortedFiles hf)
    have hcontent : d.content? f.place = some content := Disk.content?_eq_some_iff.mpr hitem
    have hload : (Source.ofFile d cwd root f).load = noteText content := load_ofFile hcontent
    have hpart := Source.filePart hload
    rw [name_ofFile hd hroot (ledFrom_of_mem_sortedFiles hd hpattern hf)] at hpart
    exact ⟨content, hcontent, hpart⟩
  · rw [Index.eq_of_build hbuild]
    exact List.flatMap_map _ _ _
  · rw [Index.eq_of_build hbuild]
    exact List.flatMap_map _ _ _

/-- Each note file adds to the index of a workspace the notes of its text, or one failure if it is
damaged, and nothing stops the building. Writing other bytes over a file changes what that file
adds, and nothing else.

The exception are patterns that meet a component of more than `maxNameBytes`: looking it up fails, no
files are listed, and no index is built, whether a file is damaged or not. -/
theorem damaged_files_isolated (hd : d.WellFormed) (hroot : d.find cwd root = .ok place)
    (hdirectory : d.isDirectory place = true) (hpattern : Glob.ofText pattern = .ok g)
    (excludes : List Text) :
    (g.meetsLongName d place = true →
      ∃ component ∈ (Path.ofText pattern).names, isTooLong component = true) ∧
    ∃ files parts i,
      Indexed d cwd root pattern excludes (g.meetsLongName d place) files parts i ∧
      ∀ p bytes, d.isFile p = true → ∃ d' parts' i',
        d.write p bytes = .ok d' ∧
        (∀ q, d'.content? q = if q = p then some bytes else d.content? q) ∧
        Indexed d' cwd root pattern excludes (g.meetsLongName d place) files parts' i' ∧
        ∀ f ∈ files, f.place ≠ p → parts' f = parts f := by
  obtain ⟨i, hi⟩ := exists_indexed hd hroot hdirectory hpattern excludes
  refine ⟨Glob.exists_isTooLong_of_meetsLongName hpattern, _, _, i, hi, fun p bytes hfile => ?_⟩
  have hd' := hd.put_file hfile bytes
  have hshape := hd.sameShape_put hfile bytes
  have hcontent (q : Location) : (d.put p (.file bytes)).content? q =
      if q = p then some bytes else d.content? q := hd.content?_put hfile bytes
  obtain ⟨i', hi'⟩ := exists_indexed hd' (hshape.find_eq.trans hroot)
    (hshape.isDirectory_eq.trans hdirectory) hpattern excludes
  rw [Glob.meetsLongName_eq hd hd' hshape, sortedFiles_eq hd hd' hshape hpattern] at hi'
  refine ⟨_, _, i', hd.write_of_isFile hfile bytes, hcontent, hi', fun f _ hne => ?_⟩
  simp only [Source.ofFile, hcontent, if_neg hne]

/-- The pattern that finds both notes of the sample tree. -/
theorem ofText_defaultNoteGlob : Glob.ofText defaultNoteGlob =
    .ok ⟨[.directories, .wild (Wildcard.ofText "*.des".toList)], false⟩ := rfl

/-- A byte that begins no character, written over one of two notes, is recorded as its failure. -/
theorem damaged_files_isolated_ff :
    let root : Path := ⟨.slash, ["w".toList]⟩
    let p : Location := ["w".toList, "b.des".toList]
    let f : Found := ⟨["b.des".toList], p⟩
    sampleTree.WellFormed ∧ sampleTree.find [] root = .ok ["w".toList] ∧
      sampleTree.isDirectory ["w".toList] = true ∧
      Glob.ofText defaultNoteGlob =
        .ok ⟨[.directories, .wild (Wildcard.ofText "*.des".toList)], false⟩ ∧
      sampleTree.isFile p = true ∧ Damaged [0xff] ∧
      ∃ (files : List Found) (parts parts' : Found → Index) (d' : Disk) (i : Index),
        sampleTree.write p [0xff] = .ok d' ∧
        Indexed d' [] root defaultNoteGlob [] false files parts' i ∧ f ∈ files ∧
        (∃ cause : Utf8.Error, parts' f = ⟨[], [⟨p.toText, cause.message⟩]⟩) ∧
        ∀ f ∈ files, f.place ≠ p → parts' f = parts f := by
  intro root p f
  have hd : sampleTree.WellFormed := by decide
  have hroot : sampleTree.find [] root = .ok ["w".toList] := by decide
  have hdamaged : Damaged [0xff] := by decide
  obtain ⟨-, files, parts, i, hfiles, hwrite⟩ :=
    damaged_files_isolated hd hroot rfl ofText_defaultNoteGlob []
  obtain ⟨d', parts', i', hd', hcontent, hindexed, hother⟩ := hwrite p [0xff] rfl
  have hf : f ∈ files := by
    have hsorted := hfiles.noteFiles
    rw [noteFiles_eq hd hroot rfl ofText_defaultNoteGlob] at hsorted
    rw [← Except.ok.inj hsorted, mem_sortedFiles hd rfl ofText_defaultNoteGlob (by decide)]
    have hends : Wildcard.ofText "*.des".toList =
        [.any, .literal '.', .literal 'd', .literal 'e', .literal 's'] := by
      simp [Wildcard.ofText]
    have hlast : ComponentStandsFor "*.des".toList ["b.des".toList] := by
      refine .inr ⟨_, rfl, ?_⟩
      rw [if_pos (show HasWildcard _ from .inl (by decide)), hends,
        ← Wildcard.covers_iff_matches]
      decide
    exact ⟨rfl, rfl, ⟨[[], ["b.des".toList]], .cons (.inl rfl) (.cons hlast .nil), rfl⟩,
      by decide, by decide, List.forall_mem_nil _⟩
  refine ⟨hd, hroot, rfl, rfl, rfl, hdamaged, files, parts, parts', d', i', hd', hindexed, hf, ?_,
    hother⟩
  obtain ⟨content, hread, hpart⟩ := hindexed.part f hf
  rw [hcontent, if_pos rfl] at hread
  obtain rfl := Option.some.inj hread
  obtain ⟨cause, -, heq⟩ := hpart.failure hdamaged
  exact ⟨cause, heq⟩

/-- Whichever way the lines of the note files end, and whether or not byte order marks begin them,
their index is that of their texts under the names of their locations. For a pattern that meets a
component of more than `maxNameBytes` there are no sources, whatever the form of the files is. -/
theorem index_of_file_forms (hd : d.WellFormed) (hroot : d.find cwd root = .ok place)
    (hdirectory : d.isDirectory place = true) (hpattern : Glob.ofText pattern = .ok g)
    (excludes : List Text) (text : Location → Text)
    (hreturn : ∀ p, '\r' ∉ text p) (hmark : ∀ p, (text p).head? ≠ some byteOrderMark) :
    (g.meetsLongName d place = true →
      ∃ component ∈ (Path.ofText pattern).names, isTooLong component = true) ∧
    ∃ files i,
      noteFiles d cwd root pattern excludes =
        (if g.meetsLongName d place then .error .nameTooLong else .ok files) ∧
      Index.build (files.map fun f => .ofText f.place.toText (text f.place)) = .ok i ∧
      i.failures = [] ∧
      ∀ form : Location → FileForm, ∃ d' sources,
        d.writeFiles (fun p => (form p).bytes (text p)) (files.map (·.place)) = .ok d' ∧
        fileSources d' cwd root pattern excludes =
          (if g.meetsLongName d place then .error .nameTooLong else .ok sources) ∧
        Index.build sources = .ok i := by
  let files := g.sortedFiles d place excludes
  have htexts : Index.build (files.map fun f => .ofText f.place.toText (text f.place)) =
      .ok ⟨files.flatMap fun f => readNotes f.place.toText (text f.place), []⟩ :=
    Index.build_of_load fun f _ => rfl
  refine ⟨Glob.exists_isTooLong_of_meetsLongName hpattern, files, _,
    noteFiles_eq hd hroot hdirectory hpattern, htexts, rfl, fun form => ?_⟩
  have hplaces : ∀ p ∈ files.map (·.place), d.isFile p = true := by
    intro p hp
    obtain ⟨f, hf, rfl⟩ := List.mem_map.mp hp
    exact isFile_of_mem_sortedFiles hf
  obtain ⟨d', hwrite, hd', hshape, hcontent⟩ :=
    hd.exists_writeFiles (fun p => (form p).bytes (text p)) hplaces
  have hroot' : d'.find cwd root = .ok place := hshape.find_eq.trans hroot
  have hdirectory' : d'.isDirectory place = true := hshape.isDirectory_eq.trans hdirectory
  have hsources : fileSources d' cwd root pattern excludes =
      if g.meetsLongName d place then .error .nameTooLong
      else .ok (files.map (Source.ofFile d' cwd root)) := by
    rw [fileSources_eq hd' hroot' hdirectory' hpattern, Glob.meetsLongName_eq hd hd' hshape,
      sortedFiles_eq hd hd' hshape hpattern]
  have hload : ∀ f ∈ files, (Source.ofFile d' cwd root f).load = .ok (text f.place) := by
    intro f hf
    have hbytes := hcontent f.place
    rw [if_pos (List.mem_map_of_mem hf)] at hbytes
    rw [load_ofFile hbytes, noteText_bytes (form f.place) (hreturn f.place) (hmark f.place)]
  have hnames : files.flatMap (fun f => readNotes (Source.ofFile d' cwd root f).name
      (text f.place)) = files.flatMap fun f => readNotes f.place.toText (text f.place) := by
    refine List.flatMap_congr fun f hf => ?_
    rw [name_ofFile hd' hroot' (ledFrom_of_mem_sortedFiles hd hpattern hf)]
  refine ⟨d', _, hwrite, hsources, ?_⟩
  rw [Index.build_of_load hload, hnames]

/-- One note begins with a byte order mark and has both characters at the ends of its lines, and the
other has carriage returns alone. -/
theorem index_of_file_forms_mixed :
    let root : Path := ⟨.slash, ["w".toList]⟩
    let text (p : Location) : Text := if p.length = 2 then "【é】\nx\n".toList else "【k】v\n\nw".toList
    let form (p : Location) : FileForm :=
      if p.length = 2 then ⟨.returnFeed, true⟩ else ⟨.carriageReturn, false⟩
    sampleTree.WellFormed ∧ sampleTree.find [] root = .ok ["w".toList] ∧
      sampleTree.isDirectory ["w".toList] = true ∧
      Glob.ofText defaultNoteGlob =
        .ok ⟨[.directories, .wild (Wildcard.ofText "*.des".toList)], false⟩ ∧
      (∀ p, '\r' ∉ text p) ∧ (∀ p, (text p).head? ≠ some byteOrderMark) ∧
      ∃ (files : List Found) (d' : Disk) (sources : List Source) (i : Index),
        noteFiles sampleTree [] root defaultNoteGlob [] = .ok files ∧
        sampleTree.writeFiles (fun p => (form p).bytes (text p)) (files.map (·.place)) = .ok d' ∧
        fileSources d' [] root defaultNoteGlob [] = .ok sources ∧ Index.build sources = .ok i ∧
        Index.build (files.map fun f => .ofText f.place.toText (text f.place)) = .ok i ∧
        i.failures = [] := by
  intro root text form
  have hd : sampleTree.WellFormed := by decide
  have hroot : sampleTree.find [] root = .ok ["w".toList] := by decide
  have hreturn (p : Location) : '\r' ∉ text p := by
    simp only [text]
    split
    · decide
    · decide
  have hmark (p : Location) : (text p).head? ≠ some byteOrderMark := by
    simp only [text]
    split
    · decide
    · decide
  obtain ⟨-, files, i, hfiles, htexts, hnone, hforms⟩ :=
    index_of_file_forms hd hroot rfl ofText_defaultNoteGlob [] text hreturn hmark
  obtain ⟨d', sources, hwrite, hsources, hbuild⟩ := hforms form
  exact ⟨hd, hroot, rfl, rfl, hreturn, hmark, files, d', sources, i, hfiles, hwrite, hsources,
    hbuild, htexts, hnone⟩

end Gloss
