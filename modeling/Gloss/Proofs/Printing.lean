import Gloss.Command.Run
import Gloss.Proofs.Drawing
import Gloss.Proofs.Markup

/-! What commands print. A text that is well marked up is printed, and so is a table of such texts;
any other crashes the command. A command line ends as its answer says. Theorems about commands take
no more from the terminal than what is said here: how styles, widths and names are read stays behind
`WellMarked`. -/

namespace Gloss.Command

open Terminal

/-! ### Texts with tags -/

/-- A text can be read as markup, and the colors in it can be read. -/
def WellMarked (t : Text) : Prop :=
  ∃ m, Marked.ofText t = .ok m ∧ m.check = .ok ()

theorem wellMarked_escape (t : Text) : WellMarked (escape t) := by
  obtain ⟨shown, h⟩ := ofText_escape t
  exact ⟨.plain shown, h, rfl⟩

theorem wellMarked_of_not_mem {t : Text} (h : '[' ∉ t) : WellMarked t := by
  obtain ⟨shown, h⟩ := ofText_of_not_mem h
  exact ⟨.plain shown, h, rfl⟩

/-- A text without brackets can be put between the tags of a style. -/
theorem wellMarked_styled {style t : Text} {read : Style} (hstyle : IsStyleName style)
    (hread : Style.ofText style = .ok read) (h : '[' ∉ t) (hlast : t.getLast? ≠ some '\\') :
    WellMarked (styled style t) := by
  obtain ⟨m, hm, hstyles⟩ := ofText_styled hstyle h hlast
  exact ⟨m, hm, Marked.check_of_styles hstyles hread⟩

theorem readMarkup_eq_ok_iff {t : Text} {m : Marked} :
    readMarkup t = .ok m ↔ Marked.ofText t = .ok m := by
  rw [readMarkup]
  cases Marked.ofText t with
  | ok m' => simp [Except.mapError]
  | error e => simp [Except.mapError]

theorem printStyled_eq (style : String) (t : Text) :
    printStyled style t = printMarkup (styled style.toList t) := by
  have hopen : ("[" ++ style ++ "]").toList = '[' :: style.toList ++ [']'] := by
    simp only [String.toList_append]
    rfl
  have hclose : ("[/" ++ style ++ "]").toList = '[' :: ('/' :: style.toList) ++ [']'] := by
    simp only [String.toList_append]
    rfl
  rw [printStyled, hopen, hclose, styled]
  simp only [List.append_assoc, List.cons_append, List.nil_append]

theorem exists_readMarkup {t : Text} (h : WellMarked t) :
    ∃ m, readMarkup t = .ok m ∧ m.check = .ok () :=
  h.imp fun _ hm => ⟨readMarkup_eq_ok_iff.mpr hm.1, hm.2⟩

/-- A text that is well marked up is printed. -/
theorem exists_printMarkup {t : Text} (h : WellMarked t) : ∃ output, printMarkup t = .ok output := by
  obtain ⟨m, hm, hcheck⟩ := exists_readMarkup h
  obtain ⟨lines, hlines⟩ := exists_drawLines lineWidth hcheck
  refine ⟨lines.flatMap (· ++ ['\n']), bind_eq_ok_iff.mpr ⟨m, hm, ?_⟩⟩
  rw [hlines]
  rfl

/-- A text that is printed can be read. -/
theorem exists_ofText_of_printMarkup {t output : Text} (h : printMarkup t = .ok output) :
    ∃ m, Marked.ofText t = .ok m := by
  obtain ⟨m, hm, -⟩ := bind_eq_ok_iff.mp h
  exact ⟨m, readMarkup_eq_ok_iff.mp hm⟩

/-! ### Tables -/

section Tables

variable {title : Text} {columns : List Column} {rows : List (List Text)}

/-- A table of texts that are well marked up is printed. -/
theorem exists_printTable (htitle : WellMarked title)
    (hrows : ∀ row ∈ rows, ∀ cell ∈ row, WellMarked cell) :
    ∃ output, printTable title columns rows = .ok output := by
  obtain ⟨rows', hrows', hcells⟩ := exists_mapM_forall fun row hrow =>
    exists_mapM_forall fun cell hcell => exists_readMarkup (hrows row hrow cell hcell)
  obtain ⟨title', htitle', hcheck⟩ := exists_readMarkup htitle
  let table : Table := { title := title', columns, rows := rows' }
  obtain ⟨lines, hlines⟩ : ∃ lines, table.lines lineWidth = .ok lines :=
    Table.exists_lines lineWidth hcheck hcells
  refine ⟨lines.flatMap (· ++ ['\n']),
    bind_eq_ok_iff.mpr ⟨rows', hrows', bind_eq_ok_iff.mpr ⟨title', htitle', ?_⟩⟩⟩
  rw [hlines]
  rfl

/-- All cells of a table that is printed can be read. -/
theorem exists_ofText_of_printTable {output : Text}
    (h : printTable title columns rows = .ok output) :
    ∀ row ∈ rows, ∀ cell ∈ row, ∃ m, Marked.ofText cell = .ok m := by
  obtain ⟨rows', hrows', -⟩ := bind_eq_ok_iff.mp h
  intro row hrow cell hcell
  obtain ⟨row', hrow'⟩ := exists_mapM_iff.mp ⟨rows', hrows'⟩ row hrow
  obtain ⟨m, hm⟩ := exists_mapM_iff.mp ⟨row', hrow'⟩ cell hcell
  exact ⟨m, readMarkup_eq_ok_iff.mp hm⟩

end Tables

/-! ### Why printing stops -/

/-- If this step stops, a text that is not well marked up has crashed the command. -/
def StopsOnMarkup {α : Type} (x : Except Stop α) : Prop :=
  ∀ e, x = .error e → ∃ m, e = .crashed (.markup m)

namespace StopsOnMarkup

variable {α β : Type}

theorem ok (a : α) : StopsOnMarkup (.ok a) :=
  fun _ h => by cases h

theorem bind {x : Except Stop α} {f : α → Except Stop β} (hx : StopsOnMarkup x)
    (hf : ∀ a, StopsOnMarkup (f a)) : StopsOnMarkup (x >>= f) := by
  intro e h
  obtain h | ⟨a, -, h⟩ := bind_eq_error_iff.mp h
  · exact hx e h
  · exact hf a e h

theorem mapM {f : α → Except Stop β} (hf : ∀ a, StopsOnMarkup (f a)) (as : List α) :
    StopsOnMarkup (as.mapM f) := by
  intro e h
  obtain ⟨a, -, h⟩ := exists_of_mapM_eq_error h
  exact hf a e h

end StopsOnMarkup

theorem readMarkup_stops (t : Text) : StopsOnMarkup (readMarkup t) := by
  intro e h
  rw [readMarkup] at h
  cases hm : Marked.ofText t with
  | ok m =>
    rw [hm] at h
    cases h
  | error m =>
    rw [hm] at h
    exact ⟨m, (Except.error.inj h).symm⟩

theorem printLines_stops (lines : Except ColorError (List Text)) :
    StopsOnMarkup (printLines lines) := by
  cases lines with
  | ok lines => exact .ok _
  | error color => exact fun e h => ⟨.color color, (Except.error.inj h).symm⟩

theorem printStyled_stops (style : String) (t : Text) : StopsOnMarkup (printStyled style t) :=
  .bind (readMarkup_stops _) fun _ => printLines_stops _

theorem printTable_stops (title : Text) (columns : List Column) (rows : List (List Text)) :
    StopsOnMarkup (printTable title columns rows) :=
  .bind (.mapM (fun row => .mapM readMarkup_stops row) rows) fun _ =>
    .bind (readMarkup_stops title) fun _ => printLines_stops _

/-! ### Failing -/

theorem isStyleName_red : IsStyleName "red".toList :=
  ⟨by decide, by decide, by decide, by decide, by decide +kernel, by decide, by decide⟩

theorem ofText_red : Style.ofText "red".toList = .ok ⟨[], some "red".toList, none, none⟩ := by
  decide +kernel

/-- The report of an error without brackets can be printed, and the command fails. -/
theorem exists_fail {message : Text} {c : Char} (h : '[' ∉ message)
    (hlast : message.getLast? = some c) (hc : c ≠ '\\') :
    ∃ output, ∀ α : Type, (fail message : Except Stop α) = .error (.failed output) := by
  have hmem : '[' ∉ "Error: ".toList ++ message := by
    rw [List.mem_append, not_or]
    exact ⟨by decide, h⟩
  have hlast' : ("Error: ".toList ++ message).getLast? ≠ some '\\' := by
    rw [List.getLast?_append, hlast]
    exact fun heq => hc (Option.some.inj heq)
  obtain ⟨output, houtput⟩ :=
    exists_printMarkup (wellMarked_styled isStyleName_red ofText_red hmem hlast')
  refine ⟨output, fun α => ?_⟩
  rw [fail, printStyled_eq, houtput]

theorem fail_bind {α β : Type} (message : Text) (f : α → Except Stop β) :
    (fail message >>= f) = fail message := by
  rw [fail, fail]
  cases printStyled "red" ("Error: ".toList ++ message) with
  | ok output => rfl
  | error e => rfl

theorem fail_ne_ok {α : Type} (message : Text) (a : α) : fail message ≠ .ok a := by
  rw [fail]
  split
  · exact fun h => by cases h
  · exact fun h => by cases h

theorem ofService_eq_ok_iff {α : Type} {x : Except Fault α} {a : α} :
    ofService x = .ok a ↔ x = .ok a := by
  cases x with
  | ok b => rw [ofService, Except.ok.injEq, Except.ok.injEq]
  | error e =>
    refine iff_of_false ?_ (by simp)
    cases e with
    | position e => exact fail_ne_ok e.message a
    | config e | glob e | read e => exact fun h => by cases h

/-! ### Opening the service -/

/-- The service is opened if the configuration can be loaded and its root is a directory. -/
theorem openService_of_load {s : Session} {root color : Option Text} {c : Config}
    (hload : Config.load s ⟨root, color, none⟩ = .ok c)
    (hdirectory : s.disk.hasDirectory s.cwd c.root = true) :
    openService s root color = .ok ⟨c, workspaceProvider, none, 0⟩ := by
  have hlong : s.disk.meetsLongName s.cwd c.root = false := by
    rw [Disk.hasDirectory] at hdirectory
    rw [Disk.meetsLongName]
    cases hfind : s.disk.find s.cwd c.root with
    | ok place => rfl
    | error e =>
      rw [hfind] at hdirectory
      cases hdirectory
  rw [openService, hload]
  simp only [hlong, hdirectory, Bool.false_eq_true, if_false, if_true]

/-! ### How command lines end -/

theorem run_of_query {s : Session} {args : List Text} {q : Query}
    (h : Query.ofArguments args = some q) : run s args = .ofAnswer (answer s q) := by
  rw [run, h]

/-- A command line ends with the exit code. -/
def Outcome.Exits (o : Outcome) (code : Nat) : Prop :=
  ∃ output, o = .exited code output

theorem Outcome.exits_ofAnswer_iff {answer : Except Stop Text} :
    (ofAnswer answer).Exits 0 ↔ ∃ output, answer = .ok output := by
  constructor
  · rintro ⟨output, h⟩
    cases answer with
    | ok output => exact ⟨output, rfl⟩
    | error e =>
      cases e with
      | failed text => cases h
      | crashed e => cases h
  · rintro ⟨output, rfl⟩
    exact ⟨output, rfl⟩

end Gloss.Command
