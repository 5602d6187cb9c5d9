import Gloss.Proofs.Load
import Gloss.Proofs.Text

/-! The checks of a configuration file. A setting is bad if the way to it leads through tables alone
and its value is not what it has to be. The first bad one stops the loading of a configuration,
whatever the other layers give for it. -/

namespace Gloss

/-! ### Values in tables -/

namespace Toml

/-- The value `v` stands at the end of a key, and the way to it leads through tables alone. -/
inductive Reaches : Table → Key → Value → Prop
  | last {t : Table} {k : Text} {v : Value} (h : t.lookup k = some v) : Reaches t [k] v
  | through {t u : Table} {k : Text} {rest : Key} {v : Value} (h : t.lookup k = some (.table u))
    (hrest : Reaches u rest v) : Reaches t (k :: rest) v

variable {t : Table} {key : Key} {v w : Value}

theorem Reaches.ne_nil (h : Reaches t key v) : key ≠ [] := by
  cases h with
  | last => exact List.cons_ne_nil _ _
  | through => exact List.cons_ne_nil _ _

theorem not_reaches_nil : ¬Reaches [] key v := by
  rintro (h | h)
  · cases h
  · cases h

theorem reaches_cons_cons_iff {k next : Text} {rest : Key} :
    Reaches t (k :: next :: rest) v ↔
      ∃ u, t.lookup k = some (.table u) ∧ Reaches u (next :: rest) v := by
  constructor
  · intro h
    cases h with
    | through hu hrest => exact ⟨_, hu, hrest⟩
  · rintro ⟨u, hu, hrest⟩
    exact .through hu hrest

theorem get?_eq_some_iff : Table.get? t key = some v ↔ Reaches t key v := by
  induction t, key using Table.get?.induct with
  | case1 t =>
    constructor
    · rintro ⟨⟩
    · exact fun h => absurd rfl h.ne_nil
  | case2 t k =>
    refine ⟨.last, fun h => ?_⟩
    cases h with
    | last h => exact h
    | through _ hrest => exact absurd rfl hrest.ne_nil
  | case3 t k next rest u hu ih =>
    simp only [Table.get?, reaches_cons_cons_iff, hu, ih, Option.some.injEq, Value.table.injEq,
      exists_eq_left']
  | case4 t k next rest hother =>
    have hnone : Table.get? t (k :: next :: rest) = none := by
      rw [Table.get?]
      split
      · next u hu => exact absurd hu (hother u)
      · rfl
    rw [hnone, reaches_cons_cons_iff]
    constructor
    · rintro ⟨⟩
    · rintro ⟨u, hu, -⟩
      exact absurd hu (hother u)

/-- Nothing is reached through a value that is no table. -/
theorem Reaches.not_beyond (h : Reaches t key v) (htable : ∀ u, v ≠ .table u) {rest : Key}
    (hrest : rest ≠ []) : ¬Reaches t (key ++ rest) w := by
  obtain ⟨next, rest, rfl⟩ := List.exists_cons_of_ne_nil hrest
  induction h with
  | last h =>
    intro hbeyond
    obtain ⟨u, hu, -⟩ := reaches_cons_cons_iff.mp hbeyond
    exact htable u (Option.some.inj (h.symm.trans hu))
  | @through t u k key v hu hkey ih =>
    intro hbeyond
    obtain ⟨k', key, rfl⟩ := List.exists_cons_of_ne_nil hkey.ne_nil
    obtain ⟨u', hu', hbeyond⟩ := reaches_cons_cons_iff.mp hbeyond
    obtain rfl := Value.table.inj (Option.some.inj (hu.symm.trans hu'))
    exact ih htable hbeyond

end Toml

/-! ### Bad settings -/

namespace Setting

/-- The value is what that of the setting has to be. -/
def Accepts : Setting → Toml.Value → Prop
  | .color, v => ∃ t, v = .text t
  | .excludes, v => ∃ items, v = .array items ∧ ∀ item ∈ items, ∃ t, item = .text t
  | .root, v | .glob, v | .language, v => ∃ t, v = .text t ∧ ∃ c ∈ t, isBlank c = false

/-- A table holds a value for the setting that is not what it has to be. -/
def Bad (s : Setting) (t : Toml.Table) : Prop :=
  ∃ v, Toml.Reaches t s.key v ∧ ¬s.Accepts v

/-- The settings in the order in which they are checked. -/
def checked : List Setting := [.root, .color, .glob, .excludes, .language]

/-- The setting is bad, and no other that is checked before it is. -/
structure FirstBad (s : Setting) (t : Toml.Table) : Prop where
  bad : s.Bad t
  before : ∀ x ∈ checked.takeWhile (· ≠ s), ¬x.Bad t

theorem mem_checked (s : Setting) : s ∈ checked := by
  cases s with
  | root | color | glob | excludes | language => decide

/-- Of the settings that are bad, one is the first. -/
theorem exists_firstBad {s : Setting} {t : Toml.Table} (h : s.Bad t) : ∃ x, FirstBad x t := by
  suffices hfirst : ∀ settings : List Setting, (∃ x ∈ settings, x.Bad t) →
      ∃ x, x.Bad t ∧ ∀ y ∈ settings.takeWhile (· ≠ x), ¬y.Bad t by
    obtain ⟨x, hx, hbefore⟩ := hfirst checked ⟨s, mem_checked s, h⟩
    exact ⟨x, hx, hbefore⟩
  intro settings hsome
  induction settings with
  | nil => simp at hsome
  | cons y settings ih =>
    by_cases hy : y.Bad t
    · exact ⟨y, hy, by simp⟩
    · obtain ⟨x, hx, hbefore⟩ := ih (by simpa [hy] using hsome)
      have hne : y ≠ x := fun heq => hy (heq ▸ hx)
      refine ⟨x, hx, ?_⟩
      rw [List.takeWhile_cons_of_pos (by simpa using hne)]
      exact List.forall_mem_cons.mpr ⟨hy, hbefore⟩

theorem not_bad_nil (s : Setting) : ¬s.Bad [] := by
  rintro ⟨v, hv, -⟩
  exact Toml.not_reaches_nil hv

end Setting

namespace Toml.Value

variable {v : Value}

theorem text?_eq_none_iff : v.text? = none ↔ ¬∃ t, v = .text t := by
  cases v with
  | text t => simp [text?]
  | array | table | plain => simp [text?]

theorem word?_eq_none_iff : v.word? = none ↔ ¬∃ t, v = .text t ∧ ∃ c ∈ t, isBlank c = false := by
  cases v with
  | text t => simp [word?, Text.strip, Text.trimBy_eq_nil_iff]
  | array | table | plain => simp [word?]

theorem texts?_eq_none_iff : v.texts? = none ↔
    ¬∃ items, v = .array items ∧ ∀ item ∈ items, ∃ t, item = .text t := by
  cases v with
  | array items => simp [texts?, mapM_eq_none_iff, text?_eq_none_iff]
  | text | table | plain => simp [texts?]

end Toml.Value

namespace FileSettings

variable {t : Toml.Table} {s : Setting} {e : ConfigError} {α : Type} {read : Toml.Value → Option α}

theorem setting?_eq_error_iff (hread : ∀ v, read v = none ↔ ¬s.Accepts v) :
    setting? t s read = .error e ↔ s.Bad t ∧ e = .invalid s := by
  rw [setting?, Setting.Bad]
  simp only [← Toml.get?_eq_some_iff, ← hread]
  cases Toml.Table.get? t s.key with
  | none => simp
  | some v =>
    cases hv : read v with
    | none => simp [hv, eq_comm]
    | some a => simp [hv]

theorem exists_setting?_iff (hread : ∀ v, read v = none ↔ ¬s.Accepts v) :
    (∃ a, setting? t s read = .ok a) ↔ ¬s.Bad t := by
  have herror (e : ConfigError) := @setting?_eq_error_iff t s e α read hread
  cases h : setting? t s read with
  | ok a =>
    refine iff_of_true ⟨a, rfl⟩ fun hbad => ?_
    rw [(herror _).mpr ⟨hbad, rfl⟩] at h
    cases h
  | error e =>
    refine iff_of_false ?_ (not_not_intro ((herror e).mp h).1)
    rintro ⟨a, ⟨⟩⟩

/-- The error of the settings of a file is that of the first bad one. -/
theorem ofTable_eq_error_iff :
    ofTable t = .error e ↔ ∃ s, Setting.FirstBad s t ∧ e = .invalid s := by
  have hroot (v : Toml.Value) : v.word? = none ↔ ¬Setting.root.Accepts v :=
    Toml.Value.word?_eq_none_iff
  have hcolor (v : Toml.Value) : v.text? = none ↔ ¬Setting.color.Accepts v :=
    Toml.Value.text?_eq_none_iff
  have hglob (v : Toml.Value) : v.word? = none ↔ ¬Setting.glob.Accepts v :=
    Toml.Value.word?_eq_none_iff
  have hexcludes (v : Toml.Value) : v.texts? = none ↔ ¬Setting.excludes.Accepts v :=
    Toml.Value.texts?_eq_none_iff
  have hlanguage (v : Toml.Value) : v.word? = none ↔ ¬Setting.language.Accepts v :=
    Toml.Value.word?_eq_none_iff
  -- Each check stops at its own setting, or passes on what does not depend on its result.
  rw [ofTable]
  simp only [bind_eq_error_iff, pure, Except.pure, reduceCtorEq, and_false, exists_false, or_false,
    exists_and_right, setting?_eq_error_iff hroot, setting?_eq_error_iff hcolor,
    setting?_eq_error_iff hglob, setting?_eq_error_iff hexcludes, setting?_eq_error_iff hlanguage,
    exists_setting?_iff hroot, exists_setting?_iff hcolor, exists_setting?_iff hglob,
    exists_setting?_iff hexcludes]
  constructor
  · rintro (⟨h, rfl⟩ | ⟨hr, ⟨h, rfl⟩ | ⟨hc, ⟨h, rfl⟩ | ⟨hg, ⟨h, rfl⟩ | ⟨he, h, rfl⟩⟩⟩⟩)
    · exact ⟨.root, ⟨h, by simp [Setting.checked]⟩, rfl⟩
    · exact ⟨.color, ⟨h, by simp [Setting.checked, hr]⟩, rfl⟩
    · exact ⟨.glob, ⟨h, by simp [Setting.checked, hr, hc]⟩, rfl⟩
    · exact ⟨.excludes, ⟨h, by simp [Setting.checked, hr, hc, hg]⟩, rfl⟩
    · exact ⟨.language, ⟨h, by simp [Setting.checked, hr, hc, hg, he]⟩, rfl⟩
  · rintro ⟨s, ⟨hbad, hbefore⟩, rfl⟩
    cases s with
    | root | color | glob | excludes | language =>
      simp_all [Setting.checked]

end FileSettings

/-! ### Loading -/

/-- The name of a setting goes on to the first blank after the words that begin every message. -/
theorem ConfigError.invalid_message_inj {x y : Setting}
    (h : (invalid x).message = (invalid y).message) : x = y := by
  have hname (s : Setting) :
      ((invalid s).message.drop 16).takeWhile (· ≠ ' ') = s.name.toList := by
    cases s with
    | root | color | glob | excludes | language => decide +kernel
  have heq : x.name = y.name := by
    rw [← String.toList_inj, ← hname x, ← hname y, h]
  revert heq
  cases x with
  | root | color | glob | excludes | language =>
    cases y with
    | root | color | glob | excludes | language => decide

theorem Disk.configTable_ne_invalid {d : Disk} {repository : Location} {x : Setting} :
    d.configTable repository ≠ .error (.invalid x) := by
  rw [configTable]
  split
  · rintro ⟨⟩
  · split
    · rintro ⟨⟩
    · split
      · rintro ⟨⟩
      · rintro ⟨⟩
      · rintro ⟨⟩
      · rintro ⟨⟩

/-- The repository has a configuration file, and the file is a TOML document with the given table.
-/
def Session.Configured (s : Session) (o : Overrides) (table : Toml.Table) : Prop :=
  ∃ repository content t, s.repository o = .ok repository ∧
    s.disk.content? (configFile repository) = some content ∧ Utf8.decode content = .ok t ∧
    Toml.parse t = .ok table

namespace Session

variable {s s' : Session} {o o' : Overrides} {table : Toml.Table} {x : Setting}

/-- A table without entries has no bad setting, and any other is that of a file. -/
theorem configured_of_bad {repository : Location} (hrepository : s.repository o = .ok repository)
    (htable : s.disk.configTable repository = .ok table) (hbad : x.Bad table) :
    s.Configured o table := by
  cases hcontent : s.disk.content? (configFile repository) with
  | none =>
    rw [Disk.configTable_of_missing hcontent] at htable
    obtain rfl := Except.ok.inj htable
    exact absurd hbad x.not_bad_nil
  | some content =>
    rw [Disk.configTable_of_content hcontent] at htable
    split at htable
    · cases htable
    · next t hdecode =>
      split at htable
      · next u hparse =>
        obtain rfl := Except.ok.inj htable
        exact ⟨repository, content, t, hrepository, hcontent, hdecode, hparse⟩
      · obtain rfl := Except.ok.inj htable
        exact absurd hbad x.not_bad_nil
      · cases htable
      · cases htable

theorem Configured.exists_configTable (h : s.Configured o table) :
    ∃ repository, s.repository o = .ok repository ∧
      s.disk.configTable repository = .ok table := by
  obtain ⟨repository, content, t, hrepository, hcontent, hdecode, hparse⟩ := h
  refine ⟨repository, hrepository, ?_⟩
  rw [Disk.configTable_of_content hcontent]
  simp only [hdecode, hparse]

theorem Configured.unique {table' : Toml.Table} (h : s.Configured o table)
    (h' : s.Configured o table') : table = table' := by
  obtain ⟨repository, hrepository, htable⟩ := h.exists_configTable
  obtain ⟨repository', hrepository', htable'⟩ := h'.exists_configTable
  obtain rfl := Except.ok.inj (hrepository.symm.trans hrepository')
  exact Except.ok.inj (htable.symm.trans htable')

theorem configured_congr (hdisk : s'.disk = s.disk) (hcwd : s'.cwd = s.cwd)
    (hstart : o'.start = o.start) : s'.Configured o' table ↔ s.Configured o table := by
  have hrepository : s'.repository o' = s.repository o := by
    rw [repository, repository, startDirectory, startDirectory, hstart, hdisk, hcwd]
    simp only [locate, hcwd]
  rw [Configured, Configured, hrepository, hdisk]

end Session

namespace Config

variable {s : Session} {o : Overrides} {x : Setting}

theorem load_eq_invalid_iff : load s o = .error (.invalid x) ↔
    ∃ table, s.Configured o table ∧ x.FirstBad table := by
  rw [load_eq_error_iff]
  constructor
  · rintro (h | ⟨repository, hrepository, h | ⟨table, htable, h | ⟨file, -, h⟩⟩⟩)
    · rcases Session.repository_eq_error h with ⟨⟨⟩⟩ | ⟨⟨⟩⟩
    · exact absurd h Disk.configTable_ne_invalid
    · obtain ⟨first, hfirst, heq⟩ := FileSettings.ofTable_eq_error_iff.mp h
      obtain rfl := ConfigError.invalid.inj heq
      exact ⟨table, Session.configured_of_bad hrepository htable hfirst.bad, hfirst⟩
    · rcases Session.locateRoot_eq_error h with ⟨⟨⟩⟩ | ⟨⟨⟩⟩
  · rintro ⟨table, hconfigured, hfirst⟩
    obtain ⟨repository, hrepository, htable⟩ := hconfigured.exists_configTable
    exact .inr ⟨repository, hrepository, .inr ⟨table, htable,
      .inl (FileSettings.ofTable_eq_error_iff.mpr ⟨x, hfirst, rfl⟩)⟩⟩

/-- A configuration is refused for the first bad setting of the file, and only for a bad setting of
the file. Neither the environment nor what the command line says about settings makes a difference.
A setting beyond a value that is no table is not there, and nothing is refused for it. The message
tells which setting is bad.

Only a file that the reader of TOML accepts counts. One that has an integer of more digits than
`Text.maxDigits`, or values nested deeper than `Toml.maxDepth`, is refused for that, whatever its
settings are. -/
theorem load_refuses_first_bad (s : Session) (o : Overrides) :
    (∀ x, load s o = .error (.invalid x) ↔ ∃ table, s.Configured o table ∧ x.FirstBad table) ∧
    ((∃ x, load s o = .error (.invalid x)) ↔
      ∃ table x, s.Configured o table ∧ Setting.Bad x table) ∧
    (∀ s' o' x, s'.disk = s.disk → s'.cwd = s.cwd → o'.start = o.start →
      (load s' o' = .error (.invalid x) ↔ load s o = .error (.invalid x))) ∧
    (∀ table x above below v, s.Configured o table → Setting.key x = above ++ below →
      below ≠ [] → Toml.Reaches table above v → (∀ u, v ≠ .table u) →
      Toml.Table.get? table x.key = none ∧ load s o ≠ .error (.invalid x)) ∧
    ∀ x y, (ConfigError.invalid x).message = (ConfigError.invalid y).message → x = y := by
  refine ⟨fun x => load_eq_invalid_iff, ⟨?_, ?_⟩, fun s' o' x hdisk hcwd hstart => ?_, ?_,
    fun x y => ConfigError.invalid_message_inj⟩
  · rintro ⟨x, h⟩
    obtain ⟨table, hconfigured, hfirst⟩ := load_eq_invalid_iff.mp h
    exact ⟨table, x, hconfigured, hfirst.bad⟩
  · rintro ⟨table, x, hconfigured, hbad⟩
    obtain ⟨first, hfirst⟩ := Setting.exists_firstBad hbad
    exact ⟨first, load_eq_invalid_iff.mpr ⟨table, hconfigured, hfirst⟩⟩
  · simp only [load_eq_invalid_iff, Session.configured_congr hdisk hcwd hstart]
  · intro table x above below v hconfigured hkey hbelow hreaches htable
    have hnone (w : Toml.Value) : ¬Toml.Reaches table x.key w := by
      rw [hkey]
      exact hreaches.not_beyond htable hbelow
    refine ⟨?_, fun h => ?_⟩
    · cases hget : Toml.Table.get? table x.key with
      | none => rfl
      | some w => exact absurd (Toml.get?_eq_some_iff.mp hget) (hnone w)
    · obtain ⟨table', hconfigured', hfirst⟩ := load_eq_invalid_iff.mp h
      obtain rfl := hconfigured.unique hconfigured'
      obtain ⟨w, hw, -⟩ := hfirst.bad
      exact hnone w hw

/-- A file with a number for the color, and with a number where the table of notes should be. -/
def numbersFile : Text := "notes = 1\n[highlight]\ncolor = 2".toList

/-- A session with that file. The environment gives a color. -/
def sessionWithNumbers : Session where
  disk := ⟨[([configDirectory], .directory),
    ([configDirectory, "config.toml".toList], .file (Utf8.encode numbersFile))]⟩
  cwd := []
  home := ['/', 'h']
  homes := []
  environment := ⟨none, some "red".toList, none, none⟩

/-- The color is refused although two layers above give one, and no glob is. -/
theorem load_refuses_first_bad_overridden :
    let s := sessionWithNumbers
    let o : Overrides := ⟨none, some "blue".toList, none⟩
    ∃ table v, s.Configured o table ∧ Setting.color.FirstBad table ∧
      load s o = .error (.invalid .color) ∧ Toml.Reaches table ["notes".toList] v ∧
      (∀ u, v ≠ .table u) ∧ Toml.Table.get? table Setting.glob.key = none ∧
      load s o ≠ .error (.invalid .glob) := by
  intro s o
  have hload : load s o = .error (.invalid .color) := by decide +kernel
  have hrepository : s.repository o = .ok [] := by decide +kernel
  have hcontent : s.disk.content? (configFile []) = some (Utf8.encode numbersFile) := by
    decide +kernel
  have hdecode : Utf8.decode (Utf8.encode numbersFile) = .ok numbersFile := by decide +kernel
  have hnotes : (Toml.parse numbersFile).toOption.any
      (fun table => (table.lookup "notes".toList).any (!·.isContainer)) = true := by
    decide +kernel
  obtain ⟨hrefused, -, -, hbeyond, -⟩ := load_refuses_first_bad s o
  obtain ⟨table, hconfigured, hfirst⟩ := (hrefused .color).mp hload
  have hparse : Toml.parse numbersFile = .ok table := by
    cases hparse : Toml.parse numbersFile with
    | ok table' =>
      have hconfigured' : s.Configured o table' :=
        ⟨[], _, numbersFile, hrepository, hcontent, hdecode, hparse⟩
      rw [hconfigured.unique hconfigured']
    | error e =>
      rw [hparse] at hnotes
      cases hnotes
  have hplain : (table.lookup "notes".toList).any (!·.isContainer) = true := by
    rw [hparse] at hnotes
    exact hnotes
  obtain ⟨v, hv, hplain⟩ := (Option.any_eq_true _ _).mp hplain
  have htable (u : Toml.Table) : v ≠ .table u := by
    rintro rfl
    cases hplain
  have hreaches : Toml.Reaches table ["notes".toList] v := .last hv
  obtain ⟨hnone, hglob⟩ := hbeyond table .glob ["notes".toList] ["glob".toList] v hconfigured rfl
    (List.cons_ne_nil _ _) hreaches htable
  exact ⟨table, v, hconfigured, hfirst, hload, hreaches, htable, hnone, hglob⟩

end Config

end Gloss
