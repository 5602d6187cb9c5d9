import Gloss.Proofs.DefinitionLine
import Gloss.Proofs.NoteIndex

/-! The way back from the source that a reader is shown. What lies in the workspace root is found
again from there, anything else is shown by its own name, and different note files are shown
differently. -/

namespace Gloss

/-! ### Shown sources -/

section Shown

variable {cwd : Location} {root : Path} {name : Text}

/-- A source is shown by its own name, or by the names that lead to it from the root. -/
theorem shownSource_cases (cwd : Location) (root : Path) (name : Text) :
    shownSource cwd (some root) name = name ∨
      (Path.ofText name).hasNul = false ∧
        ∃ names, root.resolve cwd ++ names = (Path.ofText name).resolve cwd ∧
          shownSource cwd (some root) name = Path.toText ⟨.relative, names⟩ := by
  simp only [shownSource]
  split
  · exact .inl rfl
  · next hnul =>
    rw [Bool.not_eq_true, Bool.or_eq_false_iff] at hnul
    split
    · next names hbelow =>
      exact .inr ⟨hnul.1, names, Location.below?_eq_some_iff.mp hbelow, rfl⟩
    · exact .inl rfl

theorem shownSource_of_not_prefix
    (h : ¬root.resolve cwd <+: (Path.ofText name).resolve cwd) :
    shownSource cwd (some root) name = name := by
  obtain hown | ⟨-, names, happend, -⟩ := shownSource_cases cwd root name
  · exact hown
  · exact absurd ⟨names, happend⟩ h

/-- The names of a relative path lead on from a location. -/
theorem Location.resolve_join {place : Location} {names : List Text}
    (h : ∀ name ∈ place ++ names, IsName name) (here : Location) :
    ((Path.ofLocation place).join (Path.ofText (Path.toText ⟨.relative, names⟩))).resolve here =
      place ++ names := by
  obtain ⟨hplace, hnames⟩ := List.forall_mem_append.mp h
  rw [Path.ofText_toText_relative (Path.written_of_isName hnames), Path.resolve_join,
    Path.resolve_ofLocation fun name hname => (hplace name hname).ne_parent]
  exact Location.foldl_step fun name hname => (hnames name hname).ne_parent

/-- The text is what the location that it names is written as. -/
def Text.Resolved (cwd : Location) (t : Text) : Prop :=
  ((Path.ofText t).resolve cwd).toText = t

theorem Text.resolved_toText {place : Location} (h : ∀ name ∈ place, IsName name)
    (cwd : Location) : place.toText.Resolved cwd := by
  rw [Resolved, Path.resolve_ofText_toText h]

/-- Sources that are named by their locations are told apart by what is shown of them. -/
theorem shownSource_inj (hcwd : ∀ name ∈ cwd, IsName name) {s s' : Text} (hs : s.Resolved cwd)
    (hs' : s'.Resolved cwd)
    (heq : shownSource cwd (some root) s = shownSource cwd (some root) s') : s = s' := by
  have hwritten {t : Text} {names : List Text} (hnul : (Path.ofText t).hasNul = false)
      (h : root.resolve cwd ++ names = (Path.ofText t).resolve cwd) :
      Path.Written ⟨.relative, names⟩ := by
    have hisName := (Path.written_ofText t).isName_resolve hnul hcwd
    exact Path.written_of_isName fun name hname =>
      hisName name (h ▸ List.mem_append_right _ hname)
  -- What begins with a slash is no relative path.
  have hslash {t : Text} (ht : t.Resolved cwd) : t.head? = some '/' := by
    rw [← ht]
    rfl
  obtain hown | ⟨hnul, names, happend, hshown⟩ := shownSource_cases cwd root s
  · obtain hown' | ⟨hnul', names', happend', hshown'⟩ := shownSource_cases cwd root s'
    · rw [← hown, heq, hown']
    · refine absurd (hslash hs) ?_
      rw [← hown, heq, hshown']
      exact Path.head?_toText (hwritten hnul' happend')
  · obtain hown' | ⟨hnul', names', happend', hshown'⟩ := shownSource_cases cwd root s'
    · refine absurd (hslash hs') ?_
      rw [← hown', ← heq, hshown]
      exact Path.head?_toText (hwritten hnul happend)
    · rw [hshown, hshown'] at heq
      obtain rfl := Path.toText_inj (hwritten hnul happend) (hwritten hnul' happend') heq
      rw [← hs, ← hs', ← happend, ← happend']

/-- The note files of a tree are named by their locations. -/
theorem resolved_of_mem_fileSources {d : Disk} (hd : d.WellFormed) {pattern : Text}
    {excludes : List Text} {sources : List Source}
    (h : fileSources d cwd root pattern excludes = .ok sources) :
    ∀ s ∈ sources, s.name.Resolved cwd := by
  obtain ⟨files, hfiles, h⟩ := bind_eq_ok_iff.mp h
  obtain rfl := Except.ok.inj h
  refine List.forall_mem_map.mpr fun f hf => ?_
  rcases exists_of_noteFiles_eq_ok hfiles with rfl | ⟨place, g, hroot, -, hpattern, rfl⟩
  · cases hf
  · have hstands := Disk.isSome_item?_of_isFile (isFile_of_mem_sortedFiles hf)
    rw [name_ofFile hd hroot (ledFrom_of_mem_sortedFiles hd hpattern hf)]
    exact Text.resolved_toText (fun name hname => hd.isName_of_mem hstands hname) cwd

end Shown

/-- A source whose location lies in that of the workspace root is shown by a relative path that leads
from the root to the source; any other is shown as it is named. So sources that are named by their
locations, as the note files of every tree are, are told apart by what is shown of them. -/
theorem shownSource_leads_back {cwd : Location} (hcwd : ∀ name ∈ cwd, IsName name)
    {source root : Text} (hsource : '\x00' ∉ source) (hroot : '\x00' ∉ root) :
    let p := (Path.ofText source).resolve cwd
    let r := (Path.ofText root).resolve cwd
    let shown := shownSource cwd (some (Path.ofText root))
    (r <+: p → (shown source).head? ≠ some '/' ∧
      ∀ here, ((Path.ofLocation r).join (Path.ofText (shown source))).resolve here = p) ∧
    (¬r <+: p → shown source = source) ∧
    (∀ s s', s.Resolved cwd → s'.Resolved cwd → shown s = shown s' → s = s') ∧
    ∀ (d : Disk) (workspace : Path) (glob : Text) (excludes : List Text) (sources : List Source),
      d.WellFormed → fileSources d cwd workspace glob excludes = .ok sources →
        ∀ s ∈ sources, ∀ s' ∈ sources, shown s.name = shown s'.name → s.name = s'.name := by
  intro p r shown
  have hinj {s s' : Text} (hs : s.Resolved cwd) (hs' : s'.Resolved cwd)
      (heq : shown s = shown s') : s = s' := shownSource_inj hcwd hs hs' heq
  refine ⟨?_, fun houtside => shownSource_of_not_prefix houtside, fun s s' => hinj, ?_⟩
  · rintro ⟨names, happend⟩
    have hnul := Path.hasNul_ofText hsource
    have hshown : shown source = Path.toText ⟨.relative, names⟩ :=
      shownSource_of_append hnul (Path.hasNul_ofText hroot) happend
    have hnames : ∀ name ∈ r ++ names, IsName name :=
      happend ▸ (Path.written_ofText source).isName_resolve hnul hcwd
    rw [hshown, ← happend]
    refine ⟨Path.head?_toText ?_, Location.resolve_join hnames⟩
    exact Path.written_of_isName fun name hname => hnames name (List.mem_append_right r hname)
  · intro d workspace glob excludes sources hd hsources s hs s' hs'
    have hresolved := resolved_of_mem_fileSources hd hsources
    exact hinj (hresolved s hs) (hresolved s' hs')

/-- For one who stands in the root: a source that is written with detours, one whose path begins with
the characters of the root but not with its names, and the files of a tree. -/
theorem shownSource_leads_back_lined :
    let cwd : Location := ["w".toList]
    let root : Text := "../w/.".toList
    let shown := shownSource cwd (some (Path.ofText root))
    let inside : Text := "n/../../w//a.des".toList
    let outside : Text := "/ws/../ws".toList
    let workspace : Path := ⟨.slash, ["w".toList]⟩
    (∀ name ∈ cwd, IsName name) ∧ '\x00' ∉ inside ∧ '\x00' ∉ outside ∧ '\x00' ∉ root ∧
      (Path.ofText root).resolve cwd <+: (Path.ofText inside).resolve cwd ∧
      ((Path.ofLocation cwd).join (Path.ofText (shown inside))).resolve [] =
        ["w".toList, "a.des".toList] ∧
      ¬(Path.ofText root).resolve cwd <+: (Path.ofText outside).resolve cwd ∧
      shown outside = outside ∧
      linedTree.WellFormed ∧ ∃ sources,
        fileSources linedTree cwd workspace defaultNoteGlob [] = .ok sources ∧
        sources.map (·.name) = ["/w/a.des".toList, "/w/b.des".toList] ∧
        shown "/w/a.des".toList ≠ shown "/w/b.des".toList := by
  intro cwd root shown inside outside workspace
  have hcwd : ∀ name ∈ cwd, IsName name := by decide
  have hinside : '\x00' ∉ inside := by decide
  have houtside : '\x00' ∉ outside := by decide
  have hroot : '\x00' ∉ root := by decide
  have hbelow : (Path.ofText root).resolve cwd <+: (Path.ofText inside).resolve cwd := by decide
  have hbeside : ¬(Path.ofText root).resolve cwd <+: (Path.ofText outside).resolve cwd := by decide
  obtain ⟨hback, -, -, hapart⟩ := shownSource_leads_back hcwd hinside hroot
  obtain ⟨-, hown, -⟩ := shownSource_leads_back hcwd houtside hroot
  have hsources := fileSources_linedTree cwd
  refine ⟨hcwd, hinside, houtside, hroot, hbelow, (hback hbelow).2 [], hbeside, hown hbeside,
    wellFormed_linedTree, _, hsources, rfl, fun heq => ?_⟩
  have hsame := hapart linedTree workspace defaultNoteGlob [] _ wellFormed_linedTree hsources
    _ List.mem_cons_self _ (List.mem_cons_of_mem _ List.mem_cons_self) heq
  exact absurd hsame (by decide)

end Gloss
