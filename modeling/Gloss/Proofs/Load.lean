import Gloss.Proofs.Path
import Gloss.Proofs.RepositoryRoot

/-! Loading a configuration, taken apart: what the file gives for its settings, what a home directory
makes of a path, and what all the layers hold together when a configuration is loaded. -/

namespace Gloss

/-! ### The settings of a file -/

/-- A file with the table `t` gives `a` for the setting: nothing if it has no value there, and what
`read` makes of the value otherwise. -/
def Setting.Gives {α : Type} (s : Setting) (read : Toml.Value → Option α) (t : Toml.Table)
    (a : Option α) : Prop :=
  (Toml.Table.get? t s.key = none ∧ a = none) ∨
    ∃ v x, Toml.Table.get? t s.key = some v ∧ read v = some x ∧ a = some x

/-- The settings are those of a file with the table `t`. -/
structure FileSettings.ReadFrom (file : FileSettings) (t : Toml.Table) : Prop where
  root : Setting.root.Gives Toml.Value.word? t file.root
  color : Setting.color.Gives Toml.Value.text? t file.color
  glob : Setting.glob.Gives Toml.Value.word? t file.glob
  excludes : Setting.excludes.Gives Toml.Value.texts? t file.excludes
  language : Setting.language.Gives Toml.Value.word? t file.language

namespace FileSettings

theorem setting?_eq_ok_iff {α : Type} {t : Toml.Table} {s : Setting} {read : Toml.Value → Option α}
    {a : Option α} : setting? t s read = .ok a ↔ s.Gives read t a := by
  rw [setting?, Setting.Gives]
  cases Toml.Table.get? t s.key with
  | none => simp [eq_comm]
  | some v =>
    cases hread : read v with
    | none => simp [hread]
    | some x => simp [hread, eq_comm]

theorem ofTable_eq_ok_iff {t : Toml.Table} {file : FileSettings} :
    ofTable t = .ok file ↔ file.ReadFrom t := by
  rw [ofTable]
  simp only [bind_eq_ok_iff, setting?_eq_ok_iff]
  constructor
  · rintro ⟨root, hroot, color, hcolor, glob, hglob, excludes, hexcludes, language, hlanguage, h⟩
    obtain rfl := Except.ok.inj h
    exact ⟨hroot, hcolor, hglob, hexcludes, hlanguage⟩
  · rintro ⟨hroot, hcolor, hglob, hexcludes, hlanguage⟩
    exact ⟨_, hroot, _, hcolor, _, hglob, _, hexcludes, _, hlanguage, rfl⟩

end FileSettings

/-! ### Paths and homes -/

/-- A path begins with `~` or with `~` and the name of a user. -/
def Path.NamesHome (p : Path) : Prop :=
  p.anchor = .relative ∧ ∃ user rest, p.names = ('~' :: user) :: rest

/-- What a path comes to when the homes are known: one that names a home goes on from there, and any
other is what it was. -/
inductive Session.Expands (s : Session) : Path → Path → Prop
  | self {p : Path} (h : ¬p.NamesHome) : s.Expands p p
  | own {home : Path} {rest : List Text} (hhome : homePath s.home = .ok home) :
    s.Expands ⟨.relative, ['~'] :: rest⟩ (home.join ⟨.relative, rest⟩)
  | user {user text : Text} {home : Path} {rest : List Text} (huser : user ≠ [])
    (hnul : '\x00' ∉ user) (htext : s.homes.lookup user = some text)
    (hhome : homePath text = .ok home) :
    s.Expands ⟨.relative, ('~' :: user) :: rest⟩ (home.join ⟨.relative, rest⟩)

theorem homePath_eq_error {t : Text} {e : ConfigError} (h : homePath t = .error e) :
    e = .noHome := by
  rw [homePath] at h
  split at h
  · exact (Except.error.inj h).symm
  · cases h

theorem homePath_written {t : Text} {home : Path} (h : homePath t = .ok home) : home.Written := by
  rw [homePath] at h
  split at h
  · cases h
  · rw [← Except.ok.inj h]
    exact Path.written_ofText _

namespace Session

variable {s : Session} {p q : Path}

theorem expands_of_expandHome (h : s.expandHome p = .ok q) : s.Expands p q := by
  obtain ⟨anchor, names⟩ := p
  by_cases hhome : Path.NamesHome ⟨anchor, names⟩
  · obtain ⟨rfl, user, rest, rfl⟩ := hhome
    cases user with
    | nil =>
      obtain ⟨home, hhome, h⟩ := bind_eq_ok_iff.mp h
      obtain rfl := Except.ok.inj h
      exact .own hhome
    | cons c user =>
      simp only [expandHome, List.cons.injEq, reduceCtorEq, and_false, if_false, List.head?_cons,
        if_true] at h
      split at h
      · cases h
      · next hnul =>
        split at h
        · next text htext =>
          obtain ⟨home, hhome, h⟩ := bind_eq_ok_iff.mp h
          obtain rfl := Except.ok.inj h
          exact .user (List.cons_ne_nil c user)
            (fun hmem => hnul (List.mem_cons_of_mem '~' hmem)) htext hhome
        · cases h
  · have hself : s.expandHome ⟨anchor, names⟩ = .ok ⟨anchor, names⟩ := by
      rw [expandHome]
      split
      · next name rest hanchor hnames =>
        have hname : name.head? ≠ some '~' := by
          intro hhead
          obtain ⟨user, rfl⟩ := List.head?_eq_some_iff.mp hhead
          exact hhome ⟨hanchor, user, rest, hnames⟩
        have htilde : name ≠ ['~'] := by
          rintro rfl
          exact hname rfl
        rw [if_neg htilde, if_neg hname]
      · rfl
    rw [hself] at h
    obtain rfl := Except.ok.inj h
    exact .self hhome

theorem Expands.written (h : s.Expands p q) (hp : p.Written) : q.Written := by
  cases h with
  | self => exact hp
  | own hhome | user _ _ _ hhome =>
    exact (homePath_written hhome).join fun name hname => hp name (List.mem_cons_of_mem _ hname)

theorem locate_eq_ok_iff {place : Location} :
    s.locate p = .ok place ↔ p.hasNul = false ∧ place = p.resolve s.cwd := by
  rw [locate]
  cases p.hasNul with
  | true => simp
  | false => simp [eq_comm]

theorem locate_eq_error {e : ConfigError} (h : s.locate p = .error e) : e = .nulInPath := by
  rw [locate] at h
  split at h
  · exact (Except.error.inj h).symm
  · cases h

theorem expandHome_eq_error {e : ConfigError} (h : s.expandHome p = .error e) :
    e = .noHome ∨ e = .nulInPath := by
  have hjoin {home : Text} {rest : List Text}
      (h : (do return (← homePath home).join ⟨.relative, rest⟩) = Except.error e) :
      e = .noHome ∨ e = .nulInPath := by
    obtain h | ⟨_, -, ⟨⟩⟩ := bind_eq_error_iff.mp h
    exact .inl (homePath_eq_error h)
  rw [expandHome] at h
  split at h
  · split at h
    · exact hjoin h
    · split at h
      · split at h
        · exact .inr (Except.error.inj h).symm
        · split at h
          · exact hjoin h
          · exact .inl (Except.error.inj h).symm
      · cases h
  · cases h

theorem rootPath_eq_error {repository : Location} {given file : Option Text} {e : ConfigError}
    (h : s.rootPath repository given file = .error e) : e = .noHome ∨ e = .nulInPath := by
  rw [rootPath] at h
  split at h
  · exact expandHome_eq_error h
  · split at h
    · obtain h | ⟨_, -, ⟨⟩⟩ := bind_eq_error_iff.mp h
      exact expandHome_eq_error h
    · cases h

/-! ### The repository -/

variable {o : Overrides}

theorem repository_eq_error {e : ConfigError} (h : s.repository o = .error e) :
    e = .nulInPath ∨ e = .nameTooLong := by
  obtain h | ⟨start, -, h⟩ := bind_eq_error_iff.mp h
  · rw [startDirectory] at h
    split at h
    · exact .inl (locate_eq_error h)
    · cases h
  · exact .inr (Disk.repositoryRoot_eq_error_iff.mp h).2

theorem isName_of_startDirectory (hcwd : ∀ name ∈ s.cwd, IsName name)
    (hstart : ∀ p ∈ o.start, p.Written) {start : Location} (h : s.startDirectory o = .ok start) :
    ∀ name ∈ start, IsName name := by
  rw [startDirectory] at h
  split at h
  · next p hp =>
    obtain ⟨hnul, rfl⟩ := locate_eq_ok_iff.mp h
    exact (hstart p hp).isName_resolve hnul hcwd
  · rw [← Except.ok.inj h]
    exact hcwd

end Session

theorem Session.isName_of_repository {s : Session} {o : Overrides} {repository : Location}
    (hcwd : ∀ name ∈ s.cwd, IsName name) (hstart : ∀ p ∈ o.start, p.Written)
    (h : s.repository o = .ok repository) : ∀ name ∈ repository, IsName name := by
  obtain ⟨start, hdirectory, h⟩ := bind_eq_ok_iff.mp h
  intro name hname
  exact isName_of_startDirectory hcwd hstart hdirectory name
    ((Disk.repositoryRoot_prefix h).subset hname)

/-! ### The configuration file -/

/-- Where the configuration file of a repository is. -/
def configFile (repository : Location) : Location :=
  repository ++ [configDirectory, "config.toml".toList]

theorem Disk.configTable_of_missing {d : Disk} {repository : Location}
    (h : d.content? (configFile repository) = none) : d.configTable repository = .ok [] := by
  rw [configTable, ← configFile, h]

theorem Disk.configTable_of_content {d : Disk} {repository : Location} {content : Bytes}
    (h : d.content? (configFile repository) = some content) :
    d.configTable repository =
      match Utf8.decode content with
      | .error e => .error (.undecodable e)
      | .ok t =>
        match Toml.parse t with
        | .ok table => .ok table
        | .error .malformed => .ok []
        | .error (.oversized digits) => .error (.oversized digits)
        | .error .tooDeep => .error .tooDeep := by
  rw [configTable, ← configFile]
  split
  · next hmissing =>
    rw [h] at hmissing
    cases hmissing
  · next found hfound =>
    obtain rfl := Option.some.inj (h.symm.trans hfound)
    rfl

/-! ### The layers -/

/-- What the layers hold when a configuration is loaded. -/
structure Layers where
  overrides : Overrides
  session : Session
  repository : Location
  file : FileSettings

namespace Layers

/-- The layers are those that a load finds: the file is that of the repository. -/
structure Found (l : Layers) (s : Session) (o : Overrides) : Prop where
  overrides : l.overrides = o
  session : l.session = s
  repository : s.repository o = .ok l.repository
  file : ∃ table, s.disk.configTable l.repository = .ok table ∧ l.file.ReadFrom table

/-- The location is that of the workspace root. -/
def RootedAt (l : Layers) (root : Location) : Prop :=
  ∃ path, l.session.rootPath l.repository l.overrides.root l.file.root = .ok path ∧
    path.hasNul = false ∧ root = path.resolve l.session.cwd

/-- The texts that the layers hold for a setting, the first layer first. -/
def texts (l : Layers) : Setting → List (Option Text)
  | .root => [l.overrides.root, l.session.environment.root, l.file.root]
  | .color => [l.overrides.color, l.session.environment.color, l.file.color]
  | .glob => [l.session.environment.glob, l.file.glob]
  | .language => [l.session.environment.language, l.file.language]
  | .excludes => []

/-- The configuration that the layers make up with a root. -/
def config (l : Layers) (root : Location) : Config :=
  { root := Path.ofLocation root
    glob := (firstGiven (l.texts .glob)).getD defaultNoteGlob
    language := (firstGiven (l.texts .language)).getD Config.defaultLanguage
    color := (firstGiven (l.texts .color)).getD Config.defaultColor
    excludes := l.file.excludes.getD Config.defaultExcludes }

theorem Found.unique {l l' : Layers} {s : Session} {o : Overrides} (h : l.Found s o)
    (h' : l'.Found s o) : l = l' := by
  obtain ⟨table, htable, hread⟩ := h.file
  obtain ⟨table', htable', hread'⟩ := h'.file
  have hrepository := Except.ok.inj (h.repository.symm.trans h'.repository)
  rw [← hrepository, htable] at htable'
  obtain rfl := Except.ok.inj htable'
  have hfile := Except.ok.inj ((FileSettings.ofTable_eq_ok_iff.mpr hread).symm.trans
    (FileSettings.ofTable_eq_ok_iff.mpr hread'))
  cases l
  cases l'
  rw [mk.injEq]
  exact ⟨h.overrides.trans h'.overrides.symm, h.session.trans h'.session.symm, hrepository, hfile⟩

end Layers

theorem Config.load_eq_ok_iff {s : Session} {o : Overrides} {c : Config} :
    load s o = .ok c ↔
      ∃ (l : Layers) (root : Location), l.Found s o ∧ l.RootedAt root ∧ c = l.config root := by
  rw [load]
  simp only [bind_eq_ok_iff, FileSettings.ofTable_eq_ok_iff, Session.locate_eq_ok_iff]
  constructor
  · rintro ⟨repository, hrepository, table, htable, file, hfile, path, hpath, root, ⟨hnul, hroot⟩, h⟩
    exact ⟨⟨o, s, repository, file⟩, root, ⟨rfl, rfl, hrepository, table, htable, hfile⟩,
      ⟨path, hpath, hnul, hroot⟩, (Except.ok.inj h).symm⟩
  · rintro ⟨⟨_, _, repository, file⟩, root, ⟨rfl, rfl, hrepository, table, htable, hfile⟩,
      ⟨path, hpath, hnul, hroot⟩, rfl⟩
    exact ⟨repository, hrepository, table, htable, file, hfile, path, hpath, root, ⟨hnul, hroot⟩, rfl⟩

/-- Why there is no configuration, step by step. -/
theorem Config.load_eq_error_iff {s : Session} {o : Overrides} {e : ConfigError} :
    load s o = .error e ↔ s.repository o = .error e ∨
      ∃ repository, s.repository o = .ok repository ∧
        (s.disk.configTable repository = .error e ∨
          ∃ table, s.disk.configTable repository = .ok table ∧
            (FileSettings.ofTable table = .error e ∨
              ∃ file, FileSettings.ofTable table = .ok file ∧
                (s.rootPath repository o.root file.root >>= s.locate) = .error e)) := by
  rw [load]
  simp only [bind_eq_error_iff, pure, Except.pure, reduceCtorEq, and_false, exists_false, or_false]

theorem Session.locateRoot_eq_error {s : Session} {repository : Location}
    {given file : Option Text} {e : ConfigError}
    (h : (s.rootPath repository given file >>= s.locate) = .error e) :
    e = .noHome ∨ e = .nulInPath := by
  obtain h | ⟨path, -, h⟩ := bind_eq_error_iff.mp h
  · exact rootPath_eq_error h
  · exact .inr (locate_eq_error h)

end Gloss
