import Gloss.Proofs.Load

/-! The layers of a configuration. Each setting is that of the first layer which gives it, so that
the layers below make no difference, and what the command line says about one setting changes no
other. The workspace root is a location, seen from the current directory or from the repository. -/

namespace Gloss

/-! ### The first layer that gives a text -/

/-- No layer holds a text that is not empty. -/
def NoneGiven (layers : List (Option Text)) : Prop :=
  ∀ layer ∈ layers, layer.getD [] = []

/-- `t` is the text of the first layer that holds one which is not empty. -/
def GivenFirst (layers : List (Option Text)) (t : Text) : Prop :=
  ∃ above below, layers = above ++ some t :: below ∧ t ≠ [] ∧ NoneGiven above

/-- The layers are the same down to, and including, the first that holds a text which is not
empty. -/
inductive SameDown : List (Option Text) → List (Option Text) → Prop
  | nil : SameDown [] []
  | given {t : Text} {below below' : List (Option Text)} (h : t ≠ []) :
    SameDown (some t :: below) (some t :: below')
  | next {layer : Option Text} {below below' : List (Option Text)} (h : SameDown below below') :
    SameDown (layer :: below) (layer :: below')

section FirstGiven

variable {layers layers' : List (Option Text)} {t : Text}

theorem firstGiven_eq_none_iff : firstGiven layers = none ↔ NoneGiven layers := by
  rw [firstGiven, List.findSome?_eq_none_iff]
  refine forall₂_congr fun layer _ => ?_
  cases layer with
  | none => simp
  | some t => simp

theorem firstGiven_eq_some_iff : firstGiven layers = some t ↔ GivenFirst layers t := by
  rw [firstGiven, List.findSome?_eq_some_iff]
  constructor
  · rintro ⟨above, layer, below, rfl, hlayer, habove⟩
    split at hlayer
    · cases hlayer
    · next hne =>
      obtain rfl := hlayer
      exact ⟨above, below, rfl, hne,
        firstGiven_eq_none_iff.mp (List.findSome?_eq_none_iff.mpr habove)⟩
  · rintro ⟨above, below, rfl, hne, habove⟩
    exact ⟨above, some t, below, rfl, if_neg hne,
      List.findSome?_eq_none_iff.mp (firstGiven_eq_none_iff.mpr habove)⟩

theorem firstGiven_cons (layer : Option Text) (layers : List (Option Text)) :
    firstGiven (layer :: layers) = (firstGiven [layer]).or (firstGiven layers) := by
  rw [← List.singleton_append, firstGiven, List.findSome?_append, ← firstGiven, ← firstGiven]

theorem firstGiven_cons_given (h : t ≠ []) : firstGiven (some t :: layers) = some t :=
  firstGiven_eq_some_iff.mpr ⟨[], layers, rfl, h, List.forall_mem_nil _⟩

/-- A default is a last layer. -/
theorem givenFirst_getD {default : Text} (h : default ≠ []) :
    GivenFirst (layers ++ [some default]) ((firstGiven layers).getD default) := by
  rw [← firstGiven_eq_some_iff, firstGiven, List.findSome?_append, ← firstGiven, ← firstGiven,
    firstGiven_cons_given h]
  cases firstGiven layers with
  | none => rfl
  | some t => rfl

theorem SameDown.firstGiven_eq (h : SameDown layers layers') :
    firstGiven layers = firstGiven layers' := by
  induction h with
  | nil => rfl
  | given hne => rw [firstGiven_cons_given hne, firstGiven_cons_given hne]
  | next _ ih => rw [firstGiven_cons, ih, ← firstGiven_cons]

end FirstGiven

/-! ### The workspace root -/

namespace Session

variable {s s' : Session}

theorem expandHome_congr (hhome : s.home = s'.home) (hhomes : s.homes = s'.homes) (p : Path) :
    s.expandHome p = s'.expandHome p := by
  rw [expandHome, expandHome, hhome, hhomes]

/-- Only the layers down to the first text count for the root, and of the session the homes. -/
theorem rootPath_congr {repository : Location} {given given' file file' : Option Text}
    (h : SameDown [given, s.environment.root, file] [given', s'.environment.root, file'])
    (hhome : s.home = s'.home) (hhomes : s.homes = s'.homes) :
    s.rootPath repository given file = s'.rootPath repository given' file' := by
  have hexpand := expandHome_congr hhome hhomes
  rw [rootPath, rootPath]
  cases h with
  | given hne =>
    rw [firstGiven_cons_given hne]
    exact hexpand _
  | next h =>
    rw [h.firstGiven_eq]
    simp only [hexpand]

end Session

namespace Layers

/-- Where the root of a workspace is: at the first path that the layers give, seen from the current
directory if the command line gives it, and from the repository otherwise. Without any it is the
repository. -/
inductive RootFrom (l : Layers) : Location → Prop
  | commandLine {t : Text} {p : Path} (h : GivenFirst [l.overrides.root] t)
    (hp : l.session.Expands (Path.ofText t) p) : l.RootFrom (p.resolve l.session.cwd)
  | setting {t : Text} {p : Path} (hnone : NoneGiven [l.overrides.root])
    (h : GivenFirst [l.session.environment.root, l.file.root] t)
    (hp : l.session.Expands (Path.ofText t) p) : l.RootFrom (p.resolve l.repository)
  | repository (h : NoneGiven (l.texts .root)) : l.RootFrom l.repository

variable {l : Layers}

/-- The root is where the layers say, and a location as the repository is one. -/
theorem RootedAt.rootFrom {root : Location} (h : l.RootedAt root)
    (hcwd : ∀ name ∈ l.session.cwd, IsName name)
    (hrepository : ∀ name ∈ l.repository, IsName name) :
    l.RootFrom root ∧ ∀ name ∈ root, IsName name := by
  obtain ⟨path, hpath, hnul, rfl⟩ := h
  -- Resolving drops the names of parents, so that only names are left of a path as it is written.
  suffices hfrom : l.RootFrom (path.resolve l.session.cwd) ∧ path.Written from
    ⟨hfrom.1, hfrom.2.isName_resolve hnul hcwd⟩
  have hofRepository : (Path.ofLocation l.repository).resolve l.session.cwd = l.repository :=
    Path.resolve_ofLocation (fun name hname => (hrepository name hname).ne_parent) _
  rw [Session.rootPath] at hpath
  cases hgiven : firstGiven [l.overrides.root] with
  | some t =>
    rw [hgiven] at hpath
    have hexpands := Session.expands_of_expandHome hpath
    exact ⟨.commandLine (firstGiven_eq_some_iff.mp hgiven) hexpands,
      hexpands.written (Path.written_ofText t)⟩
  | none =>
    have hnone := firstGiven_eq_none_iff.mp hgiven
    rw [hgiven] at hpath
    cases hset : firstGiven [l.session.environment.root, l.file.root] with
    | some t =>
      rw [hset] at hpath
      obtain ⟨p, hp, hpath⟩ := bind_eq_ok_iff.mp hpath
      obtain rfl := Except.ok.inj hpath
      have hexpands := Session.expands_of_expandHome hp
      refine ⟨?_, (Path.written_of_isName hrepository).join
        (hexpands.written (Path.written_ofText t))⟩
      rw [Path.resolve_join, hofRepository]
      exact .setting hnone (firstGiven_eq_some_iff.mp hset) hexpands
    | none =>
      rw [hset] at hpath
      obtain rfl := Except.ok.inj hpath
      refine ⟨?_, Path.written_of_isName hrepository⟩
      rw [hofRepository]
      apply RootFrom.repository
      rw [← firstGiven_eq_none_iff, texts, firstGiven_cons, hgiven, hset]
      rfl

theorem RootedAt.unique {l' : Layers} {root root' : Location} (h : l.RootedAt root)
    (h' : l'.RootedAt root') (hsame : SameDown (l.texts .root) (l'.texts .root))
    (hrepository : l.repository = l'.repository) (hcwd : l.session.cwd = l'.session.cwd)
    (hhome : l.session.home = l'.session.home) (hhomes : l.session.homes = l'.session.homes) :
    root = root' := by
  obtain ⟨path, hpath, -, rfl⟩ := h
  obtain ⟨path', hpath', -, rfl⟩ := h'
  rw [Session.rootPath_congr hsame hhome hhomes, hrepository, hpath'] at hpath
  rw [Except.ok.inj hpath, hcwd]

end Layers

/-! ### The configuration of the layers -/

/-- Each setting of the configuration is that of the first layer which gives it. The list of
excluded globs counts also when it is empty. -/
structure Config.Layered (c : Config) (l : Layers) : Prop where
  color : GivenFirst (l.texts .color ++ [some defaultColor]) c.color
  glob : GivenFirst (l.texts .glob ++ [some defaultNoteGlob]) c.glob
  language : GivenFirst (l.texts .language ++ [some defaultLanguage]) c.language
  excludes : c.excludes = l.file.excludes.getD defaultExcludes
  root : l.RootFrom c.root.names
  root_absolute : c.root.isAbsolute = true
  root_names : ∀ name ∈ c.root.names, IsName name

/-- What two configurations have in common, of which one is loaded from the layers `l` and the other
from `l'`: each setting for which the layers are the same down to the first that gives it. -/
structure Config.Agrees (c c' : Config) (l l' : Layers) : Prop where
  color : SameDown (l.texts .color) (l'.texts .color) → c.color = c'.color
  glob : SameDown (l.texts .glob) (l'.texts .glob) → c.glob = c'.glob
  language : SameDown (l.texts .language) (l'.texts .language) → c.language = c'.language
  excludes : l.file.excludes = l'.file.excludes → c.excludes = c'.excludes
  root : SameDown (l.texts .root) (l'.texts .root) → l.repository = l'.repository →
    l.session.cwd = l'.session.cwd → l.session.home = l'.session.home →
    l.session.homes = l'.session.homes → c.root = c'.root

namespace Layers

variable {l l' : Layers} {root root' : Location}

theorem config_layered (h : l.RootedAt root) (hcwd : ∀ name ∈ l.session.cwd, IsName name)
    (hrepository : ∀ name ∈ l.repository, IsName name) : (l.config root).Layered l := by
  obtain ⟨hfrom, hnames⟩ := h.rootFrom hcwd hrepository
  exact ⟨givenFirst_getD (by decide), givenFirst_getD (by decide), givenFirst_getD (by decide), rfl,
    hfrom, rfl, hnames⟩

theorem config_agrees (h : l.RootedAt root) (h' : l'.RootedAt root') :
    (l.config root).Agrees (l'.config root') l l' where
  color hsame := by rw [config, hsame.firstGiven_eq, config]
  glob hsame := by rw [config, hsame.firstGiven_eq, config]
  language hsame := by rw [config, hsame.firstGiven_eq, config]
  excludes hsame := by rw [config, hsame, config]
  root hsame hrepository hcwd hhome hhomes :=
    congrArg Path.ofLocation (h.unique h' hsame hrepository hcwd hhome hhomes)

/-- Which repository and which file are found does not depend on the texts of the command line. -/
theorem Found.override {s : Session} {o : Overrides} (h : l.Found s o) (root color : Option Text) :
    Found ⟨⟨root, color, o.start⟩, s, l.repository, l.file⟩ s ⟨root, color, o.start⟩ :=
  ⟨rfl, rfl, h.repository, h.file⟩

end Layers

/-- A configuration that is loaded takes each setting from the first layer that gives it, so that
what the layers below hold makes no difference between two of them. A color on the command line
changes at most the color, and a root there at most the root. -/
theorem Config.load_follows_layers {s : Session} {o : Overrides} {c : Config}
    (hcwd : ∀ name ∈ s.cwd, IsName name) (hstart : ∀ p ∈ o.start, p.Written)
    (h : load s o = .ok c) :
    ∃ l : Layers, l.Found s o ∧ c.Layered l ∧
      (∀ s' o' c', load s' o' = .ok c' → ∃ l' : Layers, l'.Found s' o' ∧ c.Agrees c' l l') ∧
      (∀ given, ∃ color, load s { o with color := given } = .ok { c with color := color }) ∧
      ∀ given c', load s { o with root := given } = .ok c' → c' = { c with root := c'.root } := by
  obtain ⟨l, root, hfound, hroot, rfl⟩ := load_eq_ok_iff.mp h
  obtain rfl := hfound.session
  obtain rfl := hfound.overrides
  refine ⟨l, hfound, ?_, fun s' o' c' h' => ?_, fun given => ?_, fun given c' h' => ?_⟩
  · exact Layers.config_layered hroot hcwd
      (Session.isName_of_repository hcwd hstart hfound.repository)
  · obtain ⟨l', root', hfound', hroot', rfl⟩ := load_eq_ok_iff.mp h'
    exact ⟨l', hfound', Layers.config_agrees hroot hroot'⟩
  · have hother := hfound.override l.overrides.root given
    exact ⟨_, load_eq_ok_iff.mpr ⟨_, root, hother, hroot, rfl⟩⟩
  · obtain ⟨l', root', hfound', -, rfl⟩ := load_eq_ok_iff.mp h'
    obtain rfl := hfound'.unique (hfound.override given l.overrides.color)
    rfl

/-- A session in the directory `d` of the repository `r`. The environment gives a color and two empty
texts, and the file a root with blanks around it, an empty color and an empty list of globs. -/
def sessionInRepository : Session where
  disk := ⟨[([['r']], .directory), ([['r'], ['d']], .directory),
    ([['r'], configDirectory], .directory),
    ([['r'], configDirectory, "config.toml".toList], .file (Utf8.encode
      "workspace_root = ' s '\n[notes]\nexclude_globs = []\n[highlight]\ncolor = ''".toList))]⟩
  cwd := [['r'], ['d']]
  home := ['/', 'h']
  homes := []
  environment := ⟨some [], some "red".toList, none, some []⟩

/-- Empty texts and blanks around them do not count, and an empty list does. -/
theorem Config.load_follows_layers_repository :
    let s := sessionInRepository
    let o : Overrides := ⟨some [], none, some ⟨.relative, [parentName, ['d']]⟩⟩
    let c : Config := ⟨⟨.slash, [['r'], ['s']]⟩, defaultNoteGlob, defaultLanguage, "red".toList, []⟩
    (∀ name ∈ s.cwd, IsName name) ∧ (∀ p ∈ o.start, p.Written) ∧ load s o = .ok c ∧
      ∃ l : Layers, l.Found s o ∧ c.Layered l ∧
        (∀ s' o' c', load s' o' = .ok c' → ∃ l' : Layers, l'.Found s' o' ∧ c.Agrees c' l l') ∧
        (∀ given, ∃ color, load s { o with color := given } = .ok { c with color := color }) ∧
        ∀ given c', load s { o with root := given } = .ok c' → c' = { c with root := c'.root } := by
  intro s o c
  have hcwd : ∀ name ∈ s.cwd, IsName name := by decide
  have hstart : ∀ p ∈ o.start, p.Written := by
    intro p hp
    obtain rfl := Option.some.inj hp
    decide
  have hload : load s o = .ok c := by decide +kernel
  exact ⟨hcwd, hstart, hload, load_follows_layers hcwd hstart hload⟩

end Gloss
