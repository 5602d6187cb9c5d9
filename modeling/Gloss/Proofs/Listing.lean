import Gloss.Proofs.Disk
import Gloss.Proofs.Printing

/-! The list of notes, for a reader and as JSON. Both show the same notes, and the list for a reader
can fail where the other does not: keys and values are escaped in it, and the names of sources, the
root and the glob are not. -/

namespace Gloss.Command

open Terminal

/-! ### What the list shows -/

/-- The line about a source that is left out, with its tags. -/
def skippedText (f : Failure) : Text :=
  styled "yellow".toList ("Skipped ".toList ++ f.source ++ ": ".toList ++ f.reason)

section Table

variable {s : Session} {config : Config} {entries : List Entry}

/-- The texts that stand in the table of notes, or in its place, as they are. -/
def tableTexts (s : Session) (config : Config) (entries : List Entry) : List Text :=
  if entries = [] then
    [styled "dim".toList ("No notes found under ".toList ++ config.root.toText ++ " (".toList ++
      config.glob ++ [')'])]
  else entries.map fun e => shownSource s.cwd (some config.root) e.source

/-- The cells of a note can be shown if its source can, whatever its key and its value are. -/
theorem wellMarked_noteRow {root : Path} {e : Entry}
    (h : WellMarked (shownSource s.cwd (some root) e.source)) :
    ∀ cell ∈ noteRow s root e, WellMarked cell := by
  have hline : WellMarked (Text.ofNat (e.definition.line + 1)) :=
    wellMarked_of_not_mem (Text.not_mem_ofNat (by decide) _)
  rw [noteRow]
  simp only [List.forall_mem_cons]
  exact ⟨wellMarked_escape e.key, h, hline, wellMarked_escape (preview e.value),
    List.forall_mem_nil _⟩

theorem exists_noteTable (h : ∀ t ∈ tableTexts s config entries, WellMarked t) :
    ∃ output, noteTable s config entries = .ok output := by
  rw [tableTexts] at h
  rw [noteTable]
  split at h
  · next hnone =>
    rw [if_pos hnone, printStyled_eq]
    exact exists_printMarkup (List.forall_mem_singleton.mp h)
  · next hsome =>
    rw [if_neg hsome]
    apply exists_printTable
    · apply wellMarked_of_not_mem
      rw [List.mem_append, not_or]
      exact ⟨Text.not_mem_ofNat (by decide) _, by decide⟩
    · rw [List.forall_mem_map]
      intro e he
      exact wellMarked_noteRow (List.forall_mem_map.mp h e he)

/-- A table that is shown had only texts in it that can be read. -/
theorem exists_ofText_of_noteTable {output : Text}
    (h : noteTable s config entries = .ok output) :
    ∀ t ∈ tableTexts s config entries, ∃ m, Marked.ofText t = .ok m := by
  rw [noteTable] at h
  rw [tableTexts]
  split at h
  · next hnone =>
    rw [printStyled_eq] at h
    rw [if_pos hnone]
    exact List.forall_mem_singleton.mpr (exists_ofText_of_printMarkup h)
  · next hsome =>
    rw [if_neg hsome, List.forall_mem_map]
    intro e he
    have hrow := exists_ofText_of_printTable h (noteRow s config.root e) (List.mem_map_of_mem he)
    exact hrow _ (List.mem_cons_of_mem _ List.mem_cons_self)

theorem noteTable_stops : StopsOnMarkup (noteTable s config entries) := by
  rw [noteTable]
  split
  · exact printStyled_stops _ _
  · exact printTable_stops _ _ _

end Table

section List

variable {s : Session} {config : Config} {i : Index} {root : Option Text}

/-- The texts that the list shows a reader as they are. -/
def unescapedTexts (s : Session) (config : Config) (i : Index) : List Text :=
  tableTexts s config i.entries ++ i.failures.map skippedText

/-- The list for a reader, once the notes are read. -/
def printNotes (s : Session) (config : Config) (i : Index) : Except Stop Text := do
  let table ← noteTable s config i.entries
  let skipped ← i.failures.mapM skippedLine
  return table ++ skipped.flatten

theorem skippedLine_eq (f : Failure) : skippedLine f = printMarkup (skippedText f) :=
  printStyled_eq "yellow" _

theorem exists_printNotes (h : ∀ t ∈ unescapedTexts s config i, WellMarked t) :
    ∃ output, printNotes s config i = .ok output := by
  obtain ⟨htable, hskipped⟩ := List.forall_mem_append.mp h
  obtain ⟨table, htable⟩ := exists_noteTable htable
  obtain ⟨skipped, hskipped⟩ : ∃ skipped, i.failures.mapM skippedLine = .ok skipped := by
    apply exists_mapM_iff.mpr
    intro f hf
    rw [skippedLine_eq]
    exact exists_printMarkup (List.forall_mem_map.mp hskipped f hf)
  exact ⟨_, bind_eq_ok_iff.mpr ⟨table, htable, bind_eq_ok_iff.mpr ⟨skipped, hskipped, rfl⟩⟩⟩

theorem exists_ofText_of_printNotes {output : Text} (h : printNotes s config i = .ok output) :
    ∀ t ∈ unescapedTexts s config i, ∃ m, Marked.ofText t = .ok m := by
  obtain ⟨table, htable, h⟩ := bind_eq_ok_iff.mp h
  obtain ⟨skipped, hskipped, -⟩ := bind_eq_ok_iff.mp h
  refine List.forall_mem_append.mpr ⟨exists_ofText_of_noteTable htable, ?_⟩
  rw [List.forall_mem_map]
  intro f hf
  obtain ⟨line, hline⟩ := exists_mapM_iff.mp ⟨skipped, hskipped⟩ f hf
  rw [skippedLine_eq] at hline
  exact exists_ofText_of_printMarkup hline

theorem printNotes_stops : StopsOnMarkup (printNotes s config i) :=
  noteTable_stops.bind fun _ =>
    (StopsOnMarkup.mapM (fun _ => printStyled_stops _ _) _).bind fun _ => .ok _

theorem listNotes_eq (json : Bool) : listNotes s root json = (do
    let service ← openService s root none
    let i ← ofService (service.index ⟨s, []⟩)
    if json then .ok (printJson (jsonOfIndex i)) else printNotes s service.config i) :=
  rfl

/-- Once the notes are read, the list is printed in the shape that is asked for. -/
theorem listNotes_of_index {service : Service} (hservice : openService s root none = .ok service)
    (hindex : service.index ⟨s, []⟩ = .ok i) (json : Bool) : listNotes s root json =
      if json then .ok (printJson (jsonOfIndex i)) else printNotes s service.config i := by
  rw [listNotes_eq, hservice]
  change (ofService _ >>= _) = _
  rw [hindex]
  rfl

/-- A list that can be given as JSON is given to a reader too if the texts that are not escaped are
well marked up. If one of these cannot be read it is not, and it never fails for anything else: no
key and no value makes it fail. -/
theorem notes_listed_for_reader {jsonArgs tableArgs : List Text}
    (hjson : Query.ofArguments jsonArgs = some (.notes root true))
    (htable : Query.ofArguments tableArgs = some (.notes root false))
    (hexit : (run s jsonArgs).Exits 0) :
    ∃ service i, openService s root none = .ok service ∧ service.index ⟨s, []⟩ = .ok i ∧
      run s jsonArgs = .exited 0 (printJson (jsonOfIndex i)) ∧
      ((∀ t ∈ unescapedTexts s service.config i, WellMarked t) → (run s tableArgs).Exits 0) ∧
      ((run s tableArgs).Exits 0 →
        ∀ t ∈ unescapedTexts s service.config i, ∃ m, Marked.ofText t = .ok m) ∧
      ((run s tableArgs).Exits 0 ∨ ∃ e, run s tableArgs = .crashed (.markup e)) := by
  rw [run_of_query hjson] at hexit ⊢
  rw [run_of_query htable]
  simp only [answer] at hexit ⊢
  obtain ⟨list, hlist⟩ := Outcome.exits_ofAnswer_iff.mp hexit
  obtain ⟨service, hservice, h⟩ := bind_eq_ok_iff.mp (listNotes_eq true ▸ hlist)
  obtain ⟨i, hi, -⟩ := bind_eq_ok_iff.mp h
  have hindex := ofService_eq_ok_iff.mp hi
  have hlists := listNotes_of_index hservice hindex
  refine ⟨service, i, hservice, hindex, by rw [hlists]; rfl, ?_⟩
  rw [hlists, if_neg Bool.false_ne_true, Outcome.exits_ofAnswer_iff]
  refine ⟨exists_printNotes, ?_, ?_⟩
  · rintro ⟨output, h⟩
    exact exists_ofText_of_printNotes h
  · cases h : printNotes s service.config i with
    | ok output => exact .inl ⟨output, rfl⟩
    | error e =>
      obtain ⟨m, rfl⟩ := printNotes_stops e h
      exact .inr ⟨m, rfl⟩

end List

/-- A session in a directory with one file, which its names lead to from there. -/
def sessionWithFile (names : List Text) (content : Text) : Session where
  disk := ⟨(names.dropLast.inits.map fun place => (['r'] :: place, .directory)) ++
    [(['r'] :: names, .file (Utf8.encode content))]⟩
  cwd := [['r']]
  home := ['/']
  homes := []
  environment := ⟨none, none, none, none⟩

/-- A command line that lists the notes. -/
def listArguments (shape : List String) : List Text :=
  (["notes", "--root=."] ++ shape).map String.toList

theorem ofArguments_json :
    Query.ofArguments (listArguments ["--json"]) = some (.notes (some ['.']) true) := by
  decide +kernel

theorem ofArguments_table :
    Query.ofArguments (listArguments []) = some (.notes (some ['.']) false) := by
  decide +kernel

/-- How a command line that lists the notes ends, once they are read. -/
theorem run_listArguments {s : Session} {c : Config} {i : Index}
    (hload : Config.load s ⟨some ['.'], none, none⟩ = .ok c)
    (hdirectory : s.disk.hasDirectory s.cwd c.root = true)
    (hindex : Service.index ⟨c, workspaceProvider, none, 0⟩ ⟨s, []⟩ = .ok i) :
    run s (listArguments ["--json"]) = .exited 0 (printJson (jsonOfIndex i)) ∧
      run s (listArguments []) = .ofAnswer (printNotes s c i) := by
  have hlists := listNotes_of_index (openService_of_load hload hdirectory) hindex
  rw [run_of_query ofArguments_json, run_of_query ofArguments_table, answer, answer, hlists, hlists]
  exact ⟨rfl, rfl⟩

/-- A key and a value that close tags are listed both ways. -/
theorem notes_listed_for_reader_closing :
    let s := sessionWithFile ["a.des".toList]
      ([opening] ++ "[/k]".toList ++ [closing] ++ "[/v]".toList)
    let i : Index := ⟨[⟨"[/k]".toList, "[/v]".toList, "/r/a.des".toList, ⟨0, 0, 10⟩⟩], []⟩
    run s (listArguments ["--json"]) = .exited 0 (printJson (jsonOfIndex i)) ∧
      (run s (listArguments [])).Exits 0 := by
  intro s i
  let c := Config.ofRoot (Path.ofLocation [['r']])
  have hload : Config.load s ⟨some ['.'], none, none⟩ = .ok c := by decide +kernel
  have hdirectory : s.disk.hasDirectory s.cwd c.root = true := by decide +kernel
  have hindex : Service.index ⟨c, workspaceProvider, none, 0⟩ ⟨s, []⟩ = .ok i := by decide +kernel
  have hjson := (run_listArguments hload hdirectory hindex).1
  obtain ⟨service, i', hservice, hi', -, hexit, -⟩ :=
    notes_listed_for_reader ofArguments_json ofArguments_table ⟨_, hjson⟩
  rw [openService_of_load hload hdirectory] at hservice
  obtain rfl := Except.ok.inj hservice
  obtain rfl := Except.ok.inj (hindex.symm.trans hi')
  have htexts : unescapedTexts s c i = ["a.des".toList] := by decide +kernel
  refine ⟨hjson, hexit ?_⟩
  rw [htexts]
  exact List.forall_mem_singleton.mpr (wellMarked_of_not_mem (by decide))

/-- A closing tag in the name of a source is not: here the file `a].des` in the directory `[`. -/
theorem notes_not_listed_for_reader :
    let s := sessionWithFile [['['], "a].des".toList] [opening, 'k', closing, 'v']
    s.disk.WellFormed ∧ (run s (listArguments ["--json"])).Exits 0 ∧
      ∃ e, run s (listArguments []) = .crashed (.markup e) := by
  intro s
  let c := Config.ofRoot (Path.ofLocation [['r']])
  let i : Index := ⟨[⟨['k'], ['v'], "/r/[/a].des".toList, ⟨0, 0, 4⟩⟩], []⟩
  have hload : Config.load s ⟨some ['.'], none, none⟩ = .ok c := by decide +kernel
  have hdirectory : s.disk.hasDirectory s.cwd c.root = true := by decide +kernel
  have hindex : Service.index ⟨c, workspaceProvider, none, 0⟩ ⟨s, []⟩ = .ok i := by decide +kernel
  have hshown : "[/a].des".toList ∈ unescapedTexts s c i := by decide +kernel
  have htag : tag? "[/a].des".toList = some ("/a".toList, ".des".toList) := by decide
  obtain ⟨e, hunread⟩ := ofText_of_closes htag rfl
  obtain ⟨hjson, htable⟩ := run_listArguments hload hdirectory hindex
  have hd : s.disk.WellFormed := by decide
  refine ⟨hd, ⟨_, hjson⟩, ?_⟩
  rw [htable]
  cases hprint : printNotes s c i with
  | ok output =>
    obtain ⟨m, hm⟩ := exists_ofText_of_printNotes hprint _ hshown
    rw [hunread] at hm
    cases hm
  | error stop =>
    obtain ⟨m, rfl⟩ := printNotes_stops stop hprint
    exact ⟨m, rfl⟩

end Gloss.Command
