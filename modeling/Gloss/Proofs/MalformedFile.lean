import Gloss.Proofs.Disk
import Gloss.Proofs.Load

/-! A configuration file that is no TOML document. If it is malformed, a configuration is loaded as
if the file were not there. If it is not even a text, or too much for the reader, there is no
configuration. -/

namespace Gloss

theorem concat_ne_configFile {place repository : Location} {name : Text}
    (hname : name ≠ "config.toml".toList) : place ++ [name] ≠ configFile repository := by
  intro heq
  have hlast := congrArg List.getLast? heq
  rw [configFile, List.getLast?_concat, List.getLast?_append] at hlast
  exact hname (Option.some.inj hlast)

namespace Disk.Without

variable {d d' : Disk} {repository : Location} (h : d'.Without d (configFile repository))

include h

/-- The configuration file does not mark a repository. -/
theorem isMarked_eq (place : Location) : d'.isMarked place = d.isMarked place := by
  have hname : ∀ mark ∈ marks, mark.name ≠ "config.toml".toList := by decide
  have hfinds : ∀ mark ∈ marks, d'.findsMark place mark = d.findsMark place mark := by
    intro mark hmark
    rw [findsMark, findsMark, lookUp, lookUp, h.meetsLongName_eq,
      h.item?_of_ne (concat_ne_configFile (hname mark hmark))]
  exact anyM_congr hfinds

/-- The directory of the configuration file is there without the file. -/
theorem isDirectory_configDirectory (hd : d.WellFormed) :
    d'.isDirectory (repository ++ [configDirectory]) = true := by
  have hitem := isSome_item?_of_isFile h.isFile
  rw [configFile, ← List.singleton_append, ← List.append_assoc] at hitem
  rw [isDirectory, h.item?_of_ne (concat_ne_configFile (by decide))]
  exact hd.isDirectory_of_concat hitem

theorem repositoryRoot_eq (start : Location) :
    d'.repositoryRoot start = d.repositoryRoot start :=
  climb_congr h.isMarked_eq start start

end Disk.Without

namespace Session

variable {s : Session} {o : Overrides} {repository : Location} {d' : Disk}

theorem repository_without (h : d'.Without s.disk (configFile repository)) :
    ({ s with disk := d' } : Session).repository o = s.repository o := by
  rw [Session.repository, Session.repository]
  simp only [h.repositoryRoot_eq]
  rfl

end Session

namespace Config

variable {s : Session} {o : Overrides} {repository : Location} {content : Bytes} {d' : Disk}

theorem load_eq_load_without (h : d'.Without s.disk (configFile repository))
    (hrepository : s.repository o = .ok repository)
    (htable : s.disk.configTable repository = .ok []) :
    load s o = load { s with disk := d' } o := by
  have hbare : ({ s with disk := d' } : Session).repository o = .ok repository :=
    (Session.repository_without h).trans hrepository
  rw [load, load, hrepository, hbare]
  simp only [bind, Except.bind, htable, Disk.configTable_of_missing h.content?_eq_none]
  rfl

/-- Without a configuration file only the root can be wrong. -/
theorem load_without_eq_error (h : d'.Without s.disk (configFile repository))
    (hrepository : s.repository o = .ok repository) {e : ConfigError}
    (hload : load { s with disk := d' } o = .error e) : e = .noHome ∨ e = .nulInPath := by
  have hbare : ({ s with disk := d' } : Session).repository o = .ok repository :=
    (Session.repository_without h).trans hrepository
  obtain hload | ⟨place, hplace, hload⟩ := load_eq_error_iff.mp hload
  · rw [hbare] at hload
    cases hload
  · obtain rfl := Except.ok.inj (hbare.symm.trans hplace)
    rw [Disk.configTable_of_missing h.content?_eq_none] at hload
    obtain ⟨⟨⟩⟩ | ⟨table, htable, hload⟩ := hload
    obtain rfl := Except.ok.inj htable
    obtain ⟨⟨⟩⟩ | ⟨file, -, hload⟩ := hload
    exact Session.locateRoot_eq_error hload

theorem load_of_configTable_error {e : ConfigError} (hrepository : s.repository o = .ok repository)
    (htable : s.disk.configTable repository = .error e) : load s o = .error e :=
  load_eq_error_iff.mpr (.inr ⟨repository, hrepository, .inl htable⟩)

/-- If the configuration file of a repository is malformed, the configuration is that of the tree
without the file, in which the same repository is found, or there is none for the same reason. If it
is not even a text, or has a number with too many digits or too deep a nesting, there is no
configuration for that reason, which the tree without the file never gives. -/
theorem malformed_file_ignored (hrepository : s.repository o = .ok repository)
    (hcontent : s.disk.content? (configFile repository) = some content) :
    ∃ d', s.disk.remove (configFile repository) = .ok d' ∧
      d'.Without s.disk (configFile repository) ∧
      (s.disk.WellFormed → d'.isDirectory (repository ++ [configDirectory]) = true) ∧
      ({ s with disk := d' } : Session).repository o = .ok repository ∧
      (∀ t, Utf8.decode content = .ok t → Toml.parse t = .error .malformed →
        load s o = load { s with disk := d' } o) ∧
      (∀ cause, Utf8.decode content = .error cause → load s o = .error (.undecodable cause)) ∧
      (∀ t digits, Utf8.decode content = .ok t → Toml.parse t = .error (.oversized digits) →
        load s o = .error (.oversized digits)) ∧
      (∀ t, Utf8.decode content = .ok t → Toml.parse t = .error .tooDeep →
        load s o = .error .tooDeep) ∧
      ∀ e, load { s with disk := d' } o = .error e → e = .noHome ∨ e = .nulInPath := by
  have hfile : s.disk.isFile (configFile repository) = true :=
    Disk.isFile_iff.mpr ⟨content, Disk.content?_eq_some_iff.mp hcontent⟩
  obtain ⟨d', hremove, hd'⟩ := Disk.exists_remove hfile
  have htable := Disk.configTable_of_content hcontent
  refine ⟨d', hremove, hd', hd'.isDirectory_configDirectory,
    (Session.repository_without hd').trans hrepository, fun t hdecode hparse => ?_,
    fun cause hdecode => ?_, fun t digits hdecode hparse => ?_, fun t hdecode hparse => ?_,
    fun e => load_without_eq_error hd' hrepository⟩
  · apply load_eq_load_without hd' hrepository
    rw [htable]
    simp only [hdecode, hparse]
  · apply load_of_configTable_error hrepository
    rw [htable]
    simp only [hdecode]
  · apply load_of_configTable_error hrepository
    rw [htable]
    simp only [hdecode, hparse]
  · apply load_of_configTable_error hrepository
    rw [htable]
    simp only [hdecode, hparse]

/-- A session in a repository with the given content in its configuration file. The environment
gives a color. -/
def sessionWithFile (content : Bytes) : Session where
  disk := ⟨[([configDirectory], .directory),
    ([configDirectory, "config.toml".toList], .file content)]⟩
  cwd := []
  home := ['/', 'h']
  homes := []
  environment := ⟨none, some "red".toList, none, none⟩

/-- A key without a value is ignored, and the color of the environment counts. -/
theorem malformed_file_ignored_key :
    let s := sessionWithFile (Utf8.encode "a =".toList)
    let o : Overrides := ⟨none, none, none⟩
    s.repository o = .ok [] ∧
      s.disk.content? (configFile []) = some (Utf8.encode "a =".toList) ∧
      ∃ d', s.disk.remove (configFile []) = .ok d' ∧ load s o = load { s with disk := d' } o ∧
        load s o = .ok { ofRoot ⟨.slash, []⟩ with color := "red".toList } := by
  intro s o
  have hrepository : s.repository o = .ok [] := by decide +kernel
  have hcontent : s.disk.content? (configFile []) = some (Utf8.encode "a =".toList) := by
    decide +kernel
  obtain ⟨d', hremove, -, -, -, hmalformed, -⟩ := malformed_file_ignored hrepository hcontent
  have hdecode : Utf8.decode (Utf8.encode "a =".toList) = .ok "a =".toList := by decide +kernel
  have hparse : Toml.parse "a =".toList = .error .malformed := by
    have hrefused : (Toml.parse "a =".toList).map (fun _ => ()) = .error .malformed := by
      decide +kernel
    cases hread : Toml.parse "a =".toList with
    | ok table =>
      rw [hread] at hrefused
      cases hrefused
    | error e =>
      rw [hread] at hrefused
      exact congrArg Except.error (Except.error.inj hrefused)
  exact ⟨hrepository, hcontent, d', hremove, hmalformed _ hdecode hparse, by decide +kernel⟩

/-- A file that is no text is not ignored. -/
theorem undecodable_file_not_ignored :
    ¬∀ (s : Session) (o : Overrides) (repository : Location) (content : Bytes) (d' : Disk),
      s.repository o = .ok repository →
      s.disk.content? (configFile repository) = some content →
      (∀ t table, Utf8.decode content = .ok t → Toml.parse t ≠ .ok table) →
      s.disk.remove (configFile repository) = .ok d' →
        load s o = load { s with disk := d' } o := by
  intro h
  have hnotext (t : Text) : Utf8.decode [0xff] ≠ .ok t := by
    have hfails : (Utf8.decode [0xff]).isOk = false := by decide +kernel
    intro hdecode
    rw [hdecode] at hfails
    cases hfails
  have hsame := h (sessionWithFile [0xff]) ⟨none, none, none⟩ [] [0xff]
    ⟨[([configDirectory], .directory)]⟩ (by decide +kernel) (by decide +kernel)
    (fun t table hdecode => absurd hdecode (hnotext t)) rfl
  exact absurd hsame (by decide +kernel)

end Config

end Gloss
