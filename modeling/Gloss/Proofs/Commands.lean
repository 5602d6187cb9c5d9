import Gloss.Proofs.Agreement
import Gloss.Proofs.Json
import Gloss.Proofs.Listing
import Gloss.Proofs.NoteFiles

/-! The commands for a place in a file agree with each other and with the list of notes. All of them
find the same thing, and differ in what they print of it. What they print as JSON is told from the
text, read as JSON. -/

namespace Gloss

/-! ### The report of a line that is not there -/

theorem PositionError.not_mem_message (e : PositionError) : '[' ∉ e.message := by
  unfold message
  simp only [List.mem_append, not_or]
  exact ⟨⟨⟨⟨by decide, Text.not_mem_ofInt (by decide) (by decide) e.line⟩, by decide⟩,
    Text.not_mem_ofNat (by decide) (e.count - 1)⟩, by decide⟩

theorem PositionError.getLast?_message (e : PositionError) : e.message.getLast? = some ')' :=
  List.getLast?_concat

namespace Command

/-! ### Places -/

/-- What a command finds at a place in a file: the service of the workspace, its notes, and of these
the one whose key stands at the place, with the line on which it was found. -/
structure Place where
  service : Service
  index : Index
  found : Option (Nat × MatchSpan)

/-- Looks at a place in a file, as all commands for a place do. -/
def findPlace (s : Session) (file : Text) (line column : Int) (root : Option Text) :
    Except Stop Place := do
  let service ← openService s root none
  let document ← readDocument s file
  let index ← ofService (service.index ⟨s, []⟩)
  let found ← ofService ((cursorMatch index.entries (Document.ofText document) (line - 1)
    (column - 1)).mapError .position)
  return { service, index, found }

theorem ofService_bind {α β : Type} (x : Except Fault α) (f : α → Except Fault β) :
    ofService (x >>= f) = ofService x >>= fun a => ofService (f a) := by
  cases x with
  | ok a => rfl
  | error e =>
    cases e with
    | position e => exact (fail_bind e.message _).symm
    | config e | glob e | read e => rfl

/-- What is made of an answer of the service does not change how it fails. -/
theorem ofService_mapError_map {α β : Type} (x : Except PositionError α) (f : α → β) :
    ofService ((x >>= fun a => pure (f a)).mapError .position) =
      ofService (x.mapError .position) >>= fun a => pure (f a) := by
  cases x with
  | ok a => rfl
  | error e => exact (fail_bind e.message _).symm

section Places

variable {s : Session} {file : Text} {n m : Int} {root : Option Text}

/-- `hover` shows the note that is found at the place. -/
theorem showHover_eq (json : Bool) : showHover s file n m root json =
    findPlace s file n m root >>= fun p =>
      match p.found.map fun x => Hover.ofMatch s.cwd (some p.service.config.root) x.1 x.2 with
      | none => printNothing json
      | some h => if json then .ok (printJson (jsonOfHover h)) else printHover h := by
  rw [showHover, findPlace]
  simp only [Service.hover, hoverAt, ofService_bind, ofService_mapError_map, bind_assoc, pure_bind]
  rfl

/-- `definition` shows where it is defined. -/
theorem showDefinition_eq (json : Bool) : showDefinition s file n m root json =
    findPlace s file n m root >>= fun p =>
      match p.found.map fun x => Definition.ofMatch x.2 with
      | none => printNothing json
      | some d =>
        if json then .ok (printJson (jsonOfDefinition d))
        else .ok (d.source ++ [':'] ++ Text.ofNat (d.span.line + 1) ++ ['\n']) := by
  rw [showDefinition, findPlace]
  simp only [Service.definition, definitionAt, ofService_bind, ofService_mapError_map, bind_assoc,
    pure_bind]
  rfl

/-- As JSON, `hover` prints the note or null. -/
theorem showHover_of_findPlace {p : Place} (h : findPlace s file n m root = .ok p) :
    showHover s file n m root true = .ok (printJson ((p.found.map fun x =>
      jsonOfHover (Hover.ofMatch s.cwd (some p.service.config.root) x.1 x.2)).getD .null)) := by
  rw [showHover_eq, h]
  change Except.bind (.ok p) _ = _
  rw [Except.bind]
  cases p.found with
  | none => rfl
  | some x => rfl

theorem showDefinition_of_findPlace {p : Place} (h : findPlace s file n m root = .ok p) :
    showDefinition s file n m root true = .ok (printJson ((p.found.map fun x =>
      jsonOfDefinition (Definition.ofMatch x.2)).getD .null)) := by
  rw [showDefinition_eq, h]
  change Except.bind (.ok p) _ = _
  rw [Except.bind]
  cases p.found with
  | none => rfl
  | some x => rfl

/-- What is found at a place is a note of the workspace, which the list of its notes has too. -/
theorem note_of_findPlace {p : Place} (h : findPlace s file n m root = .ok p) :
    listNotes s root true = .ok (printJson (jsonOfIndex p.index)) ∧
      ∀ x ∈ p.found, x.2.note ∈ p.index.entries := by
  obtain ⟨service, hservice, h⟩ := bind_eq_ok_iff.mp h
  obtain ⟨t, -, h⟩ := bind_eq_ok_iff.mp h
  obtain ⟨index, hindex, h⟩ := bind_eq_ok_iff.mp h
  obtain ⟨found, hfound, h⟩ := bind_eq_ok_iff.mp h
  obtain rfl := Except.ok.inj h
  refine ⟨?_, fun x hx => ?_⟩
  · rw [listNotes_of_index hservice (ofService_eq_ok_iff.mp hindex) true]
    rfl
  · have hcursor := ofService_eq_ok_iff.mp hfound
    cases hmatch : cursorMatch index.entries (Document.ofText t) (n - 1) (m - 1) with
    | error e =>
      rw [hmatch] at hcursor
      cases hcursor
    | ok found' =>
      rw [hmatch] at hcursor
      obtain rfl := Except.ok.inj hcursor
      obtain ⟨k, -, hk⟩ := bind_eq_ok_iff.mp hmatch
      have hx := (Except.ok.inj hk).trans hx
      obtain ⟨span, hspan, rfl⟩ := Option.map_eq_some_iff.mp hx
      exact (mem_allSpans_iff.mp (List.mem_of_find?_eq_some hspan)).1

/-! ### When a command fails -/

theorem index_of_fileSources {c : Config} {sources : List Source}
    (h : fileSources s.disk s.cwd c.root c.glob c.excludes = .ok sources) :
    ∃ i, Service.index ⟨c, workspaceProvider, none, 0⟩ ⟨s, []⟩ = .ok i := by
  obtain ⟨i, hbuild⟩ := exists_build_of_fileSources h
  have hprovider : workspaceProvider ⟨s, []⟩ c = .ok sources := by
    change (fileSources s.disk s.cwd c.root c.glob c.excludes).mapError Fault.glob = _
    rw [h]
    rfl
  exact ⟨i, Service.index_of_build hprovider hbuild⟩

theorem readDocument_of_decode {content : Bytes} {t : Text}
    (hnul : (Path.ofText file).hasNul = false)
    (hread : s.disk.read s.cwd (Path.ofText file) = .ok content)
    (hdecode : Utf8.decode content = .ok t) : readDocument s file = .ok (Text.unifyBreaks t) := by
  rw [readDocument]
  simp only [hnul, hread, hdecode, Bool.false_eq_true, if_false]

/-- Once the service is open, the notes are read and the document is, looking at a place succeeds if
the document has the line, and fails with a report otherwise. -/
theorem findPlace_of_line {service : Service} {index : Index} {t : Text} (hn : 1 ≤ n)
    (hservice : openService s root none = .ok service)
    (hindex : service.index ⟨s, []⟩ = .ok index) (hdocument : readDocument s file = .ok t) :
    if (Text.pieces '\n' t).length < n then
      ∃ output, findPlace s file n m root = .error (.failed output)
    else ∃ p, findPlace s file n m root = .ok p := by
  have hcount : (Document.ofText t).lineCount = (Text.pieces '\n' t).length := by
    rw [Document.lineCount_eq, Text.length_pieces]
    rfl
  have hplace : findPlace s file n m root =
      ofService ((cursorMatch index.entries (Document.ofText t) (n - 1) (m - 1)).mapError
        .position) >>= fun found => pure ⟨service, index, found⟩ := by
    rw [findPlace, hservice]
    simp only [bind, Except.bind, hdocument, hindex, ofService]
  rw [hplace]
  split
  · next hlt =>
    have hline : (Document.ofText t).line? (n - 1) =
        .error ⟨n - 1, (Document.ofText t).lineCount⟩ := if_neg (by omega)
    obtain ⟨output, hfail⟩ := exists_fail
      (PositionError.not_mem_message ⟨n - 1, (Document.ofText t).lineCount⟩)
      (PositionError.getLast?_message _) (by decide)
    refine ⟨output, ?_⟩
    rw [cursorMatch, hline]
    change (fail _ >>= _) = _
    rw [hfail]
    rfl
  · next hle =>
    have hline : (Document.ofText t).line? (n - 1) = .ok (n - 1).toNat := if_pos (by omega)
    rw [cursorMatch, hline]
    exact ⟨_, rfl⟩

end Places

/-! ### Four command lines -/

/-- The command exits with 0, and what it prints is read as a value of JSON. -/
def Outcome.Answers (o : Outcome) (j : Json) : Prop :=
  ∃ output, o = .exited 0 output ∧ Json.read output = some j

theorem answers_printJson (j : Json) : (Outcome.exited 0 (printJson j)).Answers j :=
  ⟨_, rfl, Json.read_write j (List.forall_mem_singleton.mpr rfl)⟩

/-- An answer of `hover` shows a note. -/
structure HoverShows (h : Json) (e : Entry) : Prop where
  key : h.field? "key" = some (.text e.key)
  text : h.field? "text" = some (.text e.value)

/-- An answer of `definition` leads to a note. -/
structure DefinitionShows (d : Json) (e : Entry) : Prop where
  key : d.field? "key" = some (.text e.key)
  source : d.field? "source_id" = some (.text e.source)
  line : (d.field? "definition_span").bind (·.field? "line") = some (.ofNat e.definition.line)

/-- An item of the list is about a note. -/
structure ItemShows (item : Json) (e : Entry) : Prop where
  key : item.field? "key" = some (.text e.key)
  value : item.field? "value" = some (.text e.value)
  source : item.field? "source_id" = some (.text e.source)
  line : item.field? "line" = some (.ofNat e.definition.line)

theorem hoverShows_jsonOfHover (cwd : Location) (root : Option Path) (line : Nat)
    (span : MatchSpan) :
    HoverShows (jsonOfHover (Hover.ofMatch cwd root line span)) span.note := by
  constructor <;> exact Json.field?_ofFields _ _

theorem definitionShows_jsonOfDefinition (span : MatchSpan) :
    DefinitionShows (jsonOfDefinition (Definition.ofMatch span)) span.note where
  key := Json.field?_ofFields _ _
  source := Json.field?_ofFields _ _
  line := by
    rw [jsonOfDefinition, Json.field?_ofFields]
    exact Json.field?_ofFields _ _

theorem itemShows_jsonOfEntry (e : Entry) : ItemShows (jsonOfEntry e) e := by
  constructor <;> exact Json.field?_ofFields _ _

/-- How the commands for a place end, and the list of notes with them: `hover` and `definition` with
their answers as JSON, `plain` being what `definition` prints for a reader, and `notes` the list as
JSON. If `hover` does not exit with 0, then `definition` ends the same way. Otherwise what the two
print is read as null, or as two objects about one note, and an item of the list is about it too. -/
inductive PlaceAgrees (hover definition plain notes : Outcome) : Prop
  | stopped (hstop : ¬hover.Exits 0) (heq : hover = definition)
  | nothing (hhover : hover.Answers .null) (hdefinition : definition.Answers .null)
  | found (e : Entry) {h d list item : Json} {items : List Json}
    (hhover : hover.Answers h) (hshown : HoverShows h e)
    (hdefinition : definition.Answers d) (htarget : DefinitionShows d e)
    (hnotes : notes.Answers list) (hitems : list.field? "entries" = some (.array items))
    (hitem : item ∈ items) (hlisted : ItemShows item e)
    (hplain : plain =
      .exited 0 (e.source ++ [':'] ++ Text.ofNat (e.definition.line + 1) ++ ['\n']))

section Run

variable {s : Session} {hoverArgs definitionArgs plainArgs notesArgs : List Text} {file : Text}
  {n m : Int} {root : Option Text}

/-- The answers of `hover` and `definition` agree with each other and with the list of notes. If the
configuration can be loaded, its root is a directory, the glob can be followed and the file can be
read as UTF-8, the two commands exit with 1 for a line that the file does not have and with 0
otherwise. -/
theorem place_commands_agree
    (hhover : Query.ofArguments hoverArgs = some (.hover file n m root true))
    (hdefinition : Query.ofArguments definitionArgs = some (.definition file n m root true))
    (hplain : Query.ofArguments plainArgs = some (.definition file n m root false))
    (hnotes : Query.ofArguments notesArgs = some (.notes root true)) (hn : 1 ≤ n) :
    PlaceAgrees (run s hoverArgs) (run s definitionArgs) (run s plainArgs) (run s notesArgs) ∧
      ∀ c sources content t, Config.load s ⟨root, none, none⟩ = .ok c →
        s.disk.hasDirectory s.cwd c.root = true →
        fileSources s.disk s.cwd c.root c.glob c.excludes = .ok sources →
        (Path.ofText file).hasNul = false →
        s.disk.read s.cwd (Path.ofText file) = .ok content → Utf8.decode content = .ok t →
        let code := if (Text.pieces '\n' (Text.unifyBreaks t)).length < n then 1 else 0
        (run s hoverArgs).Exits code ∧ (run s definitionArgs).Exits code := by
  rw [run_of_query hhover, run_of_query hdefinition, run_of_query hplain, run_of_query hnotes]
  simp only [answer]
  refine ⟨?_, fun c sources content t hload hdirectory hsources hnul hread hdecode => ?_⟩
  · cases hplace : findPlace s file n m root with
    | error e =>
      rw [showHover_eq, showDefinition_eq, hplace]
      refine .stopped (fun hexit => ?_) rfl
      obtain ⟨output, h⟩ := Outcome.exits_ofAnswer_iff.mp hexit
      cases h
    | ok p =>
      obtain ⟨hlist, hnote⟩ := note_of_findPlace hplace
      rw [showHover_of_findPlace hplace, showDefinition_of_findPlace hplace, hlist]
      cases hfound : p.found with
      | none => exact .nothing (answers_printJson .null) (answers_printJson .null)
      | some x =>
        have hshown : showDefinition s file n m root false = .ok (x.2.note.source ++ [':'] ++
            Text.ofNat (x.2.note.definition.line + 1) ++ ['\n']) := by
          rw [showDefinition_eq, hplace]
          change Except.bind (.ok p) _ = _
          rw [Except.bind, hfound]
          rfl
        rw [hshown]
        exact .found x.2.note (answers_printJson _) (hoverShows_jsonOfHover s.cwd _ x.1 x.2)
          (answers_printJson _) (definitionShows_jsonOfDefinition x.2) (answers_printJson _)
          (Json.field?_ofFields _ _) (List.mem_map_of_mem (hnote x hfound))
          (itemShows_jsonOfEntry x.2.note) rfl
  · obtain ⟨i, hindex⟩ := index_of_fileSources hsources
    have hline := findPlace_of_line (m := m) hn (openService_of_load hload hdirectory) hindex
      (readDocument_of_decode hnul hread hdecode)
    split at hline
    · next hlt =>
      obtain ⟨output, houtput⟩ := hline
      rw [showHover_eq, showDefinition_eq, houtput, if_pos hlt]
      exact ⟨⟨output, rfl⟩, output, rfl⟩
    · next hle =>
      obtain ⟨p, hplace⟩ := hline
      rw [showHover_of_findPlace hplace, showDefinition_of_findPlace hplace, if_neg hle]
      exact ⟨⟨_, rfl⟩, _, rfl⟩

end Run

/-- The text of a file with two notes of one key. -/
def notesOfOneKey : Text :=
  ['\n', opening, 'k', closing, 'v', '\n', opening, 'k', closing, 'w']

/-- A session in a directory with this file, and with a document that ends its first line with a
carriage return alone. -/
def sessionWithNotes : Session where
  disk := ⟨[([['r']], .directory),
    ([['r'], "a.des".toList], .file (Utf8.encode notesOfOneKey)),
    ([['r'], ['d']], .file (Utf8.encode ['\r', 'k']))]⟩
  cwd := [['r']]
  home := ['/']
  homes := []
  environment := ⟨none, none, none, none⟩

/-- A command line that asks about the end of the second line of the document. -/
def placeArguments (command : String) (shape : List String) : List Text :=
  ([command, "--root=.", "d", "--line", "2", "-c2"] ++ shape).map String.toList

/-- The first of the two notes is found, and the commands exit with 0. -/
theorem place_commands_agree_shared :
    let s := sessionWithNotes
    let c := Config.ofRoot (Path.ofLocation [['r']])
    let hoverArgs := placeArguments "hover" ["--json"]
    let definitionArgs := placeArguments "definition" ["--json"]
    let plainArgs := placeArguments "definition" []
    let notesArgs := ["notes", "--root=.", "--json"].map String.toList
    Query.ofArguments hoverArgs = some (.hover ['d'] 2 2 (some ['.']) true) ∧
      Query.ofArguments definitionArgs = some (.definition ['d'] 2 2 (some ['.']) true) ∧
      Query.ofArguments plainArgs = some (.definition ['d'] 2 2 (some ['.']) false) ∧
      Query.ofArguments notesArgs = some (.notes (some ['.']) true) ∧
      Config.load s ⟨some ['.'], none, none⟩ = .ok c ∧
      s.disk.hasDirectory s.cwd c.root = true ∧
      PlaceAgrees (run s hoverArgs) (run s definitionArgs) (run s plainArgs) (run s notesArgs) ∧
      (run s hoverArgs).Exits 0 ∧ (run s definitionArgs).Exits 0 ∧
      run s plainArgs = .exited 0 "/r/a.des:2\n".toList := by
  intro s c hoverArgs definitionArgs plainArgs notesArgs
  have hhover : Query.ofArguments hoverArgs = some (.hover ['d'] 2 2 (some ['.']) true) := by
    decide +kernel
  have hdefinition : Query.ofArguments definitionArgs =
      some (.definition ['d'] 2 2 (some ['.']) true) := by decide +kernel
  have hplain : Query.ofArguments plainArgs =
      some (.definition ['d'] 2 2 (some ['.']) false) := by decide +kernel
  have hnotes : Query.ofArguments notesArgs = some (.notes (some ['.']) true) := by decide +kernel
  have hload : Config.load s ⟨some ['.'], none, none⟩ = .ok c := by decide +kernel
  have hdirectory : s.disk.hasDirectory s.cwd c.root = true := by decide +kernel
  have hlisted : (fileSources s.disk s.cwd c.root c.glob c.excludes).isOk = true := by
    decide +kernel
  obtain ⟨sources, hsources⟩ := isOk_iff.mp hlisted
  have hread : s.disk.read s.cwd (Path.ofText ['d']) = .ok (Utf8.encode ['\r', 'k']) := by
    decide +kernel
  have hdecode : Utf8.decode (Utf8.encode ['\r', 'k']) = .ok ['\r', 'k'] := by decide +kernel
  obtain ⟨hagree, hexit⟩ := place_commands_agree hhover hdefinition hplain hnotes (by decide)
  obtain ⟨hfirst, hsecond⟩ := hexit _ _ _ _ hload hdirectory hsources (by decide) hread hdecode
  exact ⟨hhover, hdefinition, hplain, hnotes, hload, hdirectory, hagree, hfirst, hsecond,
    by decide +kernel⟩

end Command

end Gloss
