import Mathlib.Data.List.Perm.Basic
import Mathlib.Data.List.TakeWhile
import Gloss.Glob
import Gloss.Proofs.Disk
import Gloss.Proofs.Fallible
import Gloss.Proofs.Wildcard

/-! What glob patterns select: what a pattern leads to is found once, and the names by which it is
found fall into runs, one for each component of the pattern, that the components stand for. -/

namespace Gloss

/-! ### Components and steps -/

/-- The text has a character that makes it a wildcard pattern. -/
def HasWildcard (t : Text) : Prop :=
  '*' ∈ t ∨ '?' ∈ t ∨ '[' ∈ t

instance (t : Text) : Decidable (HasWildcard t) :=
  inferInstanceAs (Decidable (_ ∨ _))

theorem hasWildcard_iff {t : Text} :
    (t.any fun c => c = '*' || c = '?' || c = '[') = true ↔ HasWildcard t := by
  simp only [HasWildcard, List.any_eq_true, Bool.or_eq_true, decide_eq_true_eq, or_assoc]
  constructor
  · rintro ⟨c, hc, rfl | rfl | rfl⟩
    · exact .inl hc
    · exact .inr (.inl hc)
    · exact .inr (.inr hc)
  · rintro (hc | hc | hc)
    · exact ⟨_, hc, .inl rfl⟩
    · exact ⟨_, hc, .inr (.inl rfl)⟩
    · exact ⟨_, hc, .inr (.inr rfl)⟩

/-- A component of a pattern stands for the names of a run: `**` for any run, a component with a
wildcard for one name that it matches, and any other for itself. -/
def ComponentStandsFor (component : Text) (run : List Text) : Prop :=
  component = ['*', '*'] ∨ ∃ name, run = [name] ∧
    if HasWildcard component then (Wildcard.ofText component).Matches name else name = component

namespace GlobStep

/-- A step that is not `**` takes a name. -/
def takes : GlobStep → Text → Prop
  | .name part, t => t = part
  | .wild w, t => w.covers t = true
  | .directories, _ => False

/-- A step stands for the names of a run. -/
def StandsFor (step : GlobStep) (run : List Text) : Prop :=
  step = .directories ∨ ∃ name, run = [name] ∧ step.takes name

/-- The step that a component writes. -/
theorem eq_of_ofName {component : Text} {step : GlobStep} (h : ofName component = .ok step) :
    step = if component = ['*', '*'] then .directories
      else if HasWildcard component then .wild (Wildcard.ofText component)
      else .name component := by
  rw [ofName] at h
  by_cases hstars : component = ['*', '*']
  · rw [if_pos hstars] at h ⊢
    exact (Except.ok.inj h).symm
  · rw [if_neg hstars] at h ⊢
    split at h
    · cases h
    · by_cases hwild : HasWildcard component
      · rw [if_pos (hasWildcard_iff.mpr hwild)] at h
        rw [if_pos hwild]
        exact (Except.ok.inj h).symm
      · rw [if_neg (mt hasWildcard_iff.mp hwild)] at h
        rw [if_neg hwild]
        exact (Except.ok.inj h).symm

theorem eq_directories_iff_of_ofName {component : Text} {step : GlobStep}
    (h : ofName component = .ok step) : step = .directories ↔ component = ['*', '*'] := by
  rw [eq_of_ofName h]
  split
  · next hstars => exact iff_of_true rfl hstars
  · next hstars =>
    refine iff_of_false ?_ hstars
    split <;> exact GlobStep.noConfusion

theorem eq_of_ofName_name {component part : Text} (h : ofName component = .ok (.name part)) :
    part = component := by
  have heq := eq_of_ofName h
  split at heq
  · cases heq
  · split at heq
    · cases heq
    · exact GlobStep.name.inj heq

theorem standsFor_iff_of_ofName {component : Text} {step : GlobStep}
    (h : ofName component = .ok step) (run : List Text) :
    step.StandsFor run ↔ ComponentStandsFor component run := by
  rw [StandsFor, ComponentStandsFor, eq_directories_iff_of_ofName h]
  refine or_congr_right' fun hstars => ?_
  rw [eq_of_ofName h, if_neg hstars]
  refine exists_congr fun name => and_congr_right fun _ => ?_
  split
  · exact Wildcard.covers_iff_matches _ name
  · exact Iff.rfl

/-- The runs of a step that is not `**` are single names. -/
theorem exists_standsFor_iff {step : GlobStep} (hstep : step ≠ .directories)
    {p : List Text → Prop} :
    (∃ run, step.StandsFor run ∧ p run) ↔ ∃ t, step.takes t ∧ p [t] := by
  simp only [StandsFor, or_iff_right hstep]
  constructor
  · rintro ⟨run, ⟨t, rfl, ht⟩, hp⟩
    exact ⟨t, ht, hp⟩
  · rintro ⟨t, ht, hp⟩
    exact ⟨[t], ⟨t, rfl, ht⟩, hp⟩

theorem not_standsFor_nil {step : GlobStep} (hstep : step ≠ .directories) : ¬step.StandsFor [] := by
  rintro (rfl | ⟨t, heq, -⟩)
  · exact hstep rfl
  · cases heq

/-- Steps that stand for no names are all `**`. -/
theorem eq_directories_of_inRuns_nil {steps : List GlobStep} (h : InRuns StandsFor steps []) :
    ∀ step ∈ steps, step = .directories := by
  induction steps with
  | nil => exact fun _ hstep => by cases hstep
  | cons step rest ih =>
    obtain ⟨run, names, hrun, hrest, heq⟩ := inRuns_cons.mp h
    obtain ⟨rfl, rfl⟩ := List.append_eq_nil_iff.mp heq
    refine List.forall_mem_cons.mpr ⟨?_, ih hrest⟩
    by_contra hstep
    exact not_standsFor_nil hstep hrun

end GlobStep

/-- Something that `names` lead to from what was found. -/
def Found.below (here : Found) (names : List Text) : Found :=
  ⟨here.names ++ names, here.place ++ names⟩

@[simp] theorem Found.below_nil (here : Found) : here.below [] = here := by
  rw [below, List.append_nil, List.append_nil]

theorem Found.below_below (here : Found) (names names' : List Text) :
    (here.below names).below names' = here.below (names ++ names') := by
  rw [below, below, below, List.append_assoc, List.append_assoc]

/-- What was found is where its names lead from `root`, and they are such as a path has. -/
structure Found.LedFrom (root : Location) (f : Found) : Prop where
  place : f.place = f.names.foldl Location.step root
  written : Path.Written ⟨.relative, f.names⟩

namespace Found.LedFrom

variable {root : Location} {f f' here : Found}

theorem eq_of_names (h : f.LedFrom root) (h' : f'.LedFrom root) (heq : f.names = f'.names) :
    f = f' := by
  have hplace := h.place
  rw [heq, ← h'.place] at hplace
  cases f
  cases f'
  exact (Found.mk.injEq ..).mpr ⟨heq, hplace⟩

theorem eq_of_path (h : f.LedFrom root) (h' : f'.LedFrom root) (heq : f.path = f'.path) : f = f' :=
  h.eq_of_names h' (Path.toText_inj h.written h'.written heq)

theorem step (h : here.LedFrom root) {name : Text}
    (hname : name ≠ [] ∧ name ≠ ['.'] ∧ '/' ∉ name) :
    LedFrom root ⟨here.names ++ [name], here.place.step name⟩ := by
  refine ⟨?_, List.forall_mem_append.mpr ⟨h.written, List.forall_mem_singleton.mpr hname⟩⟩
  rw [List.foldl_append, ← h.place]
  rfl

theorem below (h : here.LedFrom root) {names : List Text} (hnames : ∀ name ∈ names, IsName name) :
    (here.below names).LedFrom root := by
  have hwritten := Path.written_of_isName (a := .relative) hnames
  refine ⟨?_, List.forall_mem_append.mpr ⟨h.written, hwritten⟩⟩
  rw [Found.below, List.foldl_append, ← h.place,
    Location.foldl_step fun name hname => (hnames name hname).ne_parent]

end Found.LedFrom

/-- Something stands at the location, and a directory if one has to. -/
def Disk.Stands (d : Disk) (directory : Prop) (place : Location) : Prop :=
  (d.item? place).isSome = true ∧ (directory → d.isDirectory place = true)

theorem Disk.stands_of_isDirectory {d : Disk} {directory : Prop} {place : Location}
    (h : d.isDirectory place = true) : d.Stands directory place :=
  ⟨isSome_item?_of_isDirectory h, fun _ => h⟩

theorem Disk.Stands.mono {d : Disk} {directory directory' : Prop} {place : Location}
    (h : d.Stands directory place) (himp : directory' → directory) : d.Stands directory' place :=
  ⟨h.1, fun hdirectory => h.2 (himp hdirectory)⟩

theorem Disk.stands_iff {d : Disk} {directory : Prop} [Decidable directory] {place : Location} :
    (if directory then d.isDirectory place else (d.item? place).isSome) = true ↔
      d.Stands directory place := by
  rw [Stands]
  split
  · next hdirectory =>
    exact ⟨stands_of_isDirectory, fun h => h.2 hdirectory⟩
  · next hdirectory => exact ⟨fun h => ⟨h, fun h => absurd h hdirectory⟩, fun h => h.1⟩

namespace Glob

variable {d : Disk} {directory : Bool} {step : GlobStep} {rest steps : List GlobStep}
  {here f : Found} {name : Text}

/-! ### One step -/

/-- What the steps `rest` select behind a name in the directory at `here`. -/
def enter (d : Disk) (directory : Bool) (rest : List GlobStep) (here : Found) (name : Text) :
    List Found :=
  let next : Found := ⟨here.names ++ [name], here.place.step name⟩
  if (if rest ≠ [] ∨ directory then d.isDirectory next.place else (d.item? next.place).isSome) then
    selectFrom d directory rest next
  else []

theorem selectFrom_name : selectFrom d directory (.name name :: rest) here =
    enter d directory rest here name := rfl

theorem selectFrom_wild {w : Wildcard} : selectFrom d directory (.wild w :: rest) here =
    ((d.children here.place).filter w.covers).flatMap (enter d directory rest here) := rfl

theorem selectFrom_directories : selectFrom d directory (.directories :: rest) here =
    ((d.directoriesFrom here.place).flatMap fun place =>
      selectFrom d directory rest
        ⟨here.names ++ place.drop here.place.length, place⟩).eraseDups := rfl

section Enter

variable (hname : name ≠ parentName)

include hname

theorem enter_of_stands (h : d.Stands (rest ≠ [] ∨ directory = true) (here.place ++ [name])) :
    enter d directory rest here name = selectFrom d directory rest (here.below [name]) := by
  rw [enter, Location.step, if_neg hname]
  exact if_pos (Disk.stands_iff.mpr h)

theorem enter_of_not_stands
    (h : ¬d.Stands (rest ≠ [] ∨ directory = true) (here.place ++ [name])) :
    enter d directory rest here name = [] := by
  rw [enter, Location.step, if_neg hname]
  exact if_neg (mt Disk.stands_iff.mp h)

theorem mem_enter : f ∈ enter d directory rest here name ↔
    d.Stands (rest ≠ [] ∨ directory = true) (here.place ++ [name]) ∧
      f ∈ selectFrom d directory rest (here.below [name]) := by
  by_cases h : d.Stands (rest ≠ [] ∨ directory = true) (here.place ++ [name])
  · rw [enter_of_stands hname h, and_iff_right h]
  · rw [enter_of_not_stands hname h]
    exact iff_of_false List.not_mem_nil fun hf => h hf.1

end Enter

/-- A name in a directory is not that of its parent. -/
theorem ne_parentName_of_mem_children (hd : d.WellFormed)
    (hname : name ∈ d.children here.place) : name ≠ parentName :=
  (hd.isName_of_mem (Disk.mem_children.mp hname)
    (List.mem_append_right _ (List.mem_singleton_self name))).ne_parent

/-- The first step leads along a run of names that it stands for, and the others go on from
there. -/
theorem mem_selectFrom_cons (hd : d.WellFormed) (hstep : step ≠ .name parentName)
    (hhere : d.isDirectory here.place = true) :
    f ∈ selectFrom d directory (step :: rest) here ↔ ∃ run, step.StandsFor run ∧
      d.Stands (step = .directories ∨ rest ≠ [] ∨ directory = true) (here.place ++ run) ∧
        f ∈ selectFrom d directory rest (here.below run) := by
  cases step with
  | name part =>
    have hne : GlobStep.name part ≠ .directories := GlobStep.noConfusion
    have hpart : part ≠ parentName := fun h => hstep (congrArg _ h)
    rw [GlobStep.exists_standsFor_iff hne, selectFrom_name, mem_enter hpart]
    simp only [or_iff_right hne, GlobStep.takes, exists_eq_left]
  | wild w =>
    have hne : GlobStep.wild w ≠ .directories := GlobStep.noConfusion
    rw [GlobStep.exists_standsFor_iff hne, selectFrom_wild, List.mem_flatMap]
    refine exists_congr fun t => ?_
    rw [or_iff_right hne, List.mem_filter]
    constructor
    · rintro ⟨⟨ht, hcovers⟩, hf⟩
      exact ⟨hcovers, (mem_enter (ne_parentName_of_mem_children hd ht)).mp hf⟩
    · rintro ⟨hcovers, hstands, hf⟩
      have ht : t ∈ d.children here.place := Disk.mem_children.mpr hstands.1
      exact ⟨⟨ht, hcovers⟩, (mem_enter (ne_parentName_of_mem_children hd ht)).mpr ⟨hstands, hf⟩⟩
  | directories =>
    rw [selectFrom_directories, List.mem_eraseDups, List.mem_flatMap]
    constructor
    · rintro ⟨place, hplace, hf⟩
      obtain ⟨run, rfl, hdirectory⟩ := (hd.mem_directoriesFrom_of_isDirectory hhere).mp hplace
      rw [List.drop_left] at hf
      exact ⟨run, .inl rfl, Disk.stands_of_isDirectory hdirectory, hf⟩
    · rintro ⟨run, -, hstands, hf⟩
      refine ⟨here.place ++ run,
        (hd.mem_directoriesFrom_of_isDirectory hhere).mpr ⟨run, rfl, hstands.2 (.inl rfl)⟩, ?_⟩
      rw [List.drop_left]
      exact hf

/-! ### All steps -/

/-- What a pattern leads to has to be a directory. -/
def WantsDirectory (directory : Bool) (steps : List GlobStep) : Prop :=
  steps.getLast? = some .directories ∨ directory = true

theorem wantsDirectory_nil : WantsDirectory directory [] ↔ directory = true :=
  or_iff_right (Option.some_ne_none _).symm

theorem wantsDirectory_singleton :
    WantsDirectory directory [step] ↔ step = .directories ∨ directory = true := by
  rw [WantsDirectory, List.getLast?_singleton, Option.some.injEq]

theorem wantsDirectory_cons (hrest : rest ≠ []) :
    WantsDirectory directory (step :: rest) ↔ WantsDirectory directory rest := by
  rw [WantsDirectory, WantsDirectory, List.getLast?_cons_of_ne_nil hrest]

/-- Where steps stand for no names at all, the last of them is `**`. -/
theorem wantsDirectory_of_inRuns_nil (hsteps : steps ≠ [])
    (h : InRuns GlobStep.StandsFor steps []) : WantsDirectory directory steps := by
  obtain ⟨last, hlast⟩ := Option.ne_none_iff_exists'.mp (mt List.getLast?_eq_none_iff.mp hsteps)
  refine .inl ?_
  rw [hlast, GlobStep.eq_directories_of_inRuns_nil h last (List.mem_of_getLast? hlast)]

/-- On the way to what stands in the end, the run of the first step leads to something from which
the other steps can go on. -/
theorem stands_of_append (hd : d.WellFormed) {place : Location} {run names : List Text}
    (hnames : InRuns GlobStep.StandsFor rest names)
    (hend : d.Stands (WantsDirectory directory (step :: rest)) (place ++ (run ++ names))) :
    d.Stands (step = .directories ∨ rest ≠ [] ∨ directory = true) (place ++ run) := by
  by_cases hnil : names = []
  · subst hnil
    rw [List.append_nil] at hend
    refine ⟨hend.1, fun h => hend.2 ?_⟩
    by_cases hrest : rest = []
    · subst hrest
      exact wantsDirectory_singleton.mpr (h.imp_right fun h => h.resolve_left fun h => h rfl)
    · exact (wantsDirectory_cons hrest).mpr (wantsDirectory_of_inRuns_nil hrest hnames)
  · rw [← List.append_assoc] at hend
    exact Disk.stands_of_isDirectory (hd.isDirectory_of_append hnil hend.1)

/-- The names of what steps select fall into the runs that the steps stand for, and all that stands
at such names is selected. -/
theorem mem_selectFrom (hd : d.WellFormed) (hsteps : .name parentName ∉ steps)
    (hhere : d.Stands (steps ≠ [] ∨ directory = true) here.place) :
    f ∈ selectFrom d directory steps here ↔ ∃ names, f = here.below names ∧
      InRuns GlobStep.StandsFor steps names ∧
        d.Stands (WantsDirectory directory steps) f.place := by
  induction steps generalizing here with
  | nil =>
    rw [selectFrom, List.mem_singleton]
    constructor
    · rintro rfl
      exact ⟨[], f.below_nil.symm, inRuns_nil.mpr rfl,
        hhere.mono fun h => .inr (wantsDirectory_nil.mp h)⟩
    · rintro ⟨names, rfl, hnames, -⟩
      rw [inRuns_nil.mp hnames, Found.below_nil]
  | cons step rest ih =>
    obtain ⟨hstep, hrest⟩ := not_or.mp (mt List.mem_cons.mpr hsteps)
    have hdirectory := hhere.2 (.inl (List.cons_ne_nil step rest))
    rw [mem_selectFrom_cons hd (Ne.symm hstep) hdirectory]
    constructor
    · rintro ⟨run, hrun, hstands, hf⟩
      obtain ⟨names, rfl, hnames, hend⟩ := (ih hrest (hstands.mono .inr)).mp hf
      rw [Found.below_below] at hend ⊢
      refine ⟨run ++ names, rfl, inRuns_cons.mpr ⟨run, names, hrun, hnames, rfl⟩, hend.1, ?_⟩
      intro hwants
      -- If no step is left, the end is where the run of this one leads, and else it is theirs.
      by_cases hnil : rest = []
      · subst hnil
        obtain rfl := inRuns_nil.mp hnames
        rw [List.append_nil]
        exact hstands.2 ((wantsDirectory_singleton.mp hwants).imp_right .inr)
      · exact hend.2 ((wantsDirectory_cons hnil).mp hwants)
    · rintro ⟨all, rfl, hall, hend⟩
      obtain ⟨run, names, hrun, hnames, rfl⟩ := inRuns_cons.mp hall
      have hstands := stands_of_append hd hnames hend
      refine ⟨run, hrun, hstands, (ih hrest (hstands.mono .inr)).mpr ?_⟩
      rw [← Found.below_below] at hend ⊢
      refine ⟨names, rfl, hnames, hend.mono fun hwants => ?_⟩
      by_cases hnil : rest = []
      · subst hnil
        exact .inr (wantsDirectory_nil.mp hwants)
      · exact (wantsDirectory_cons hnil).mpr hwants

/-! ### Once -/

theorem nodup_eraseDups {α : Type} [DecidableEq α] (l : List α) : l.eraseDups.Nodup := by
  match l with
  | [] => exact List.nodup_nil
  | a :: l =>
    rw [List.eraseDups_cons, List.nodup_cons]
    refine ⟨fun ha => ?_, nodup_eraseDups _⟩
    have hkept := (List.mem_filter.mp (List.mem_eraseDups.mp ha)).2
    simp at hkept
termination_by l.length
decreasing_by exact Nat.lt_succ_of_le (List.length_filter_le _ l)

/-- What is found behind a name has that name after those of the directory. -/
theorem getElem?_of_mem_enter (hd : d.WellFormed) (hrest : .name parentName ∉ rest)
    (hname : name ≠ parentName) (hf : f ∈ enter d directory rest here name) :
    f.names[here.names.length]? = some name := by
  obtain ⟨hstands, hf⟩ := (mem_enter hname).mp hf
  obtain ⟨names, rfl, -⟩ := (mem_selectFrom hd hrest hstands).mp hf
  rw [Found.below_below, Found.below, List.getElem?_append_right (Nat.le_refl _), Nat.sub_self]
  rfl

/-- However many ways lead to something, it is selected once. -/
theorem nodup_selectFrom (hd : d.WellFormed) (hsteps : .name parentName ∉ steps)
    (hhere : d.Stands (steps ≠ [] ∨ directory = true) here.place) :
    (selectFrom d directory steps here).Nodup := by
  induction steps generalizing here with
  | nil => exact List.nodup_singleton here
  | cons step rest ih =>
    obtain ⟨hstep, hrest⟩ := not_or.mp (mt List.mem_cons.mpr hsteps)
    have henter {name : Text} (hname : name ≠ parentName) :
        (enter d directory rest here name).Nodup := by
      by_cases h : d.Stands (rest ≠ [] ∨ directory = true) (here.place ++ [name])
      · rw [enter_of_stands hname h]
        exact ih hrest h
      · rw [enter_of_not_stands hname h]
        exact List.nodup_nil
    cases step with
    | name part => exact henter fun h => hstep (congrArg _ h.symm)
    | wild w =>
      rw [selectFrom_wild, List.nodup_flatMap]
      have hne {name : Text} (hname : name ∈ (d.children here.place).filter w.covers) :
          name ≠ parentName :=
        ne_parentName_of_mem_children hd (List.mem_filter.mp hname).1
      refine ⟨fun name hname => henter (hne hname), ?_⟩
      refine ((hd.nodup_children here.place).filter _).pairwise_of_forall_ne ?_
      intro a ha b hb hab f hfa hfb
      have hfa := getElem?_of_mem_enter hd hrest (hne ha) hfa
      rw [getElem?_of_mem_enter hd hrest (hne hb) hfb] at hfa
      exact hab (Option.some.inj hfa).symm
    | directories => exact nodup_eraseDups _

/-! ### Where names lead -/

/-- What is selected is where its names lead. -/
theorem ledFrom_of_mem_selectFrom (hd : d.WellFormed) {root : Location}
    (hsteps : ∀ part, .name part ∈ steps → part ≠ [] ∧ part ≠ ['.'] ∧ '/' ∉ part)
    (hhere : here.LedFrom root) (hf : f ∈ selectFrom d directory steps here) :
    f.LedFrom root := by
  induction steps generalizing here with
  | nil =>
    obtain rfl := List.mem_singleton.mp hf
    exact hhere
  | cons step rest ih =>
    have hrest {next : Found} (hnext : next.LedFrom root)
        (hf : f ∈ selectFrom d directory rest next) : f.LedFrom root :=
      ih (fun part hpart => hsteps part (List.mem_cons_of_mem step hpart)) hnext hf
    have henter {name : Text} (hname : name ≠ [] ∧ name ≠ ['.'] ∧ '/' ∉ name)
        (hf : f ∈ enter d directory rest here name) : f.LedFrom root := by
      rw [enter, List.mem_ite_nil_right] at hf
      exact hrest (hhere.step hname) hf.2
    cases step with
    | name part => exact henter (hsteps part List.mem_cons_self) hf
    | wild w =>
      obtain ⟨name, hname, hf⟩ := List.mem_flatMap.mp hf
      have hitem := Disk.mem_children.mp (List.mem_filter.mp hname).1
      have hname := hd.isName_of_mem hitem (List.mem_append_right _ (List.mem_singleton_self name))
      exact henter ⟨hname.ne_nil, hname.ne_here, hname.no_slash⟩ hf
    | directories =>
      rw [selectFrom_directories, List.mem_eraseDups, List.mem_flatMap] at hf
      obtain ⟨place, hplace, hf⟩ := hf
      obtain ⟨run, rfl, hrun⟩ := hd.exists_run_of_mem_directoriesFrom hplace
      rw [List.drop_left] at hf
      exact hrest (hhere.below hrun) hf

/-! ### Trees of one shape -/

section SameShape

variable {d' : Disk} (hd : d.WellFormed) (hd' : d'.WellFormed) (hshape : Disk.SameShape d' d)

include hd hd' hshape

/-- What steps select does not depend on what the files hold, up to the order. -/
theorem selectFrom_perm :
    (selectFrom d' directory steps here).Perm (selectFrom d directory steps here) := by
  induction steps generalizing here with
  | nil => exact List.Perm.refl _
  | cons step rest ih =>
    have henter (name : Text) :
        (enter d' directory rest here name).Perm (enter d directory rest here name) := by
      rw [enter, enter, hshape.isDirectory_eq, hshape.isSome_eq]
      generalize (if rest ≠ [] ∨ directory then _ else _ : Bool) = accepted
      cases accepted with
      | true => exact ih
      | false => exact List.Perm.refl _
    cases step with
    | name part => exact henter part
    | wild w =>
      have hchildren := (hd.children_perm hd' hshape here.place).filter w.covers
      rw [selectFrom_wild, selectFrom_wild]
      exact hchildren.flatMap fun name _ => henter name
    | directories =>
      have hfrom := hd.directoriesFrom_perm hd' hshape here.place
      rw [selectFrom_directories, selectFrom_directories,
        List.perm_ext_iff_of_nodup (nodup_eraseDups _) (nodup_eraseDups _)]
      intro f
      rw [List.mem_eraseDups, List.mem_eraseDups]
      exact (hfrom.flatMap fun place _ => ih).mem_iff

theorem meetsLongName_eq {g : Glob} {root : Location} :
    g.meetsLongName d' root = g.meetsLongName d root := by
  rw [meetsLongName, meetsLongName, (selectFrom_perm hd hd' hshape).isEmpty_eq]

end SameShape

/-! ### Patterns -/

/-- A pattern is read into one step for each of its components. -/
def ReadInto (components : List Text) (steps : List GlobStep) : Prop :=
  List.Forall₂ (fun component step => GlobStep.ofName component = .ok step) components steps

theorem ofText_eq_ok {t : Text} {g : Glob} (h : ofText t = .ok g) :
    ReadInto (Path.ofText t).names g.steps ∧ (g.directory = true ↔ t.getLast? = some '/') := by
  by_cases hempty : t = []
  · rw [hempty] at h
    cases h
  by_cases habsolute : (Path.ofText t).isAbsolute = true
  · simp only [ofText, if_neg hempty, if_pos habsolute] at h
    cases h
  by_cases hnames : (Path.ofText t).names = []
  · simp only [ofText, if_neg hempty, if_neg habsolute, if_pos hnames] at h
    cases h
  simp only [ofText, if_neg hempty, if_neg habsolute, if_neg hnames] at h
  obtain ⟨steps, hsteps, h⟩ := bind_eq_ok_iff.mp h
  obtain rfl := Except.ok.inj h
  exact ⟨mapM_eq_ok_iff.mp hsteps, decide_eq_true_iff⟩

namespace ReadInto

variable {components : List Text}

theorem inRuns_iff (h : ReadInto components steps) {names : List Text} :
    InRuns GlobStep.StandsFor steps names ↔ InRuns ComponentStandsFor components names :=
  inRuns_congr (h.flip.imp fun _ _ hstep => GlobStep.standsFor_iff_of_ofName hstep)

theorem getLast?_eq_iff (h : ReadInto components steps) :
    steps.getLast? = some .directories ↔ components.getLast? = some ['*', '*'] := by
  induction h with
  | nil => exact iff_of_false (Option.some_ne_none _).symm (Option.some_ne_none _).symm
  | cons hstep hrest ih =>
    cases hrest with
    | nil =>
      rw [List.getLast?_singleton, List.getLast?_singleton, Option.some.injEq, Option.some.injEq,
        GlobStep.eq_directories_iff_of_ofName hstep]
    | cons _ _ => rw [List.getLast?_cons_cons, List.getLast?_cons_cons, ih]

/-- A step along a plain name has it from a component. -/
theorem mem_of_name_mem (h : ReadInto components steps) {part : Text}
    (hpart : .name part ∈ steps) : part ∈ components := by
  induction h with
  | nil => cases hpart
  | cons hstep _ ih =>
    rcases List.mem_cons.mp hpart with rfl | hrest
    · rw [GlobStep.eq_of_ofName_name hstep]
      exact List.mem_cons_self
    · exact List.mem_cons_of_mem _ (ih hrest)

end ReadInto

theorem ledFrom_of_mem_select (hd : d.WellFormed) {root : Location} {t : Text} {g : Glob}
    (hpattern : ofText t = .ok g) (hf : f ∈ g.select d root) : f.LedFrom root := by
  have hsteps (part : Text) (hpart : .name part ∈ g.steps) :
      part ≠ [] ∧ part ≠ ['.'] ∧ '/' ∉ part :=
    Path.written_ofText t part ((ofText_eq_ok hpattern).1.mem_of_name_mem hpart)
  have hhere : Found.LedFrom root ⟨[], root⟩ := ⟨rfl, List.forall_mem_nil _⟩
  exact ledFrom_of_mem_selectFrom hd hsteps hhere hf

/-- A pattern meets a name that is too long only if one of its components is. -/
theorem exists_isTooLong_of_meetsLongName {t : Text} {g : Glob} (hpattern : ofText t = .ok g)
    {root : Location} (hlong : g.meetsLongName d root = true) :
    ∃ component ∈ (Path.ofText t).names, isTooLong component = true := by
  have hstep : ∃ step ∈ g.steps, step.isTooLong = true := by
    by_contra hnone
    have hall : g.steps.takeWhile (fun step => !step.isTooLong) = g.steps := by
      rw [List.takeWhile_eq_self_iff]
      intro step hstep
      simpa using fun h => hnone ⟨step, hstep, h⟩
    rw [meetsLongName, hall] at hlong
    simp at hlong
  obtain ⟨step, hmem, hstep⟩ := hstep
  cases step with
  | name part =>
    exact ⟨part, (ofText_eq_ok hpattern).1.mem_of_name_mem hmem,
      ((Bool.and_eq_true _ _).mp hstep).1⟩
  | wild w => cases hstep
  | directories => cases hstep

/-- The files that a pattern selects are those whose names fall into runs for its components.
Neither `**` at the end nor a slash there leaves any file. -/
theorem mem_select_iff_of_isFile (hd : d.WellFormed) {root : Location}
    (hroot : d.isDirectory root = true) {t : Text} {g : Glob} (hpattern : ofText t = .ok g)
    (hparent : parentName ∉ (Path.ofText t).names) (hfile : d.isFile f.place = true) :
    f ∈ g.select d root ↔ f.place = root ++ f.names ∧
      InRuns ComponentStandsFor (Path.ofText t).names f.names ∧
        (Path.ofText t).names.getLast? ≠ some ['*', '*'] ∧ t.getLast? ≠ some '/' := by
  obtain ⟨hread, hslash⟩ := ofText_eq_ok hpattern
  have hstands : d.Stands (WantsDirectory g.directory g.steps) f.place ↔
      (Path.ofText t).names.getLast? ≠ some ['*', '*'] ∧ t.getLast? ≠ some '/' := by
    rw [Disk.Stands, and_iff_right (Disk.isSome_item?_of_isFile hfile),
      Disk.not_isDirectory_of_isFile hfile, WantsDirectory, hread.getLast?_eq_iff, hslash]
    simp only [Bool.false_eq_true, imp_false, not_or]
  rw [select, mem_selectFrom hd (mt hread.mem_of_name_mem hparent)
    (Disk.stands_of_isDirectory hroot), hstands]
  simp only [hread.inRuns_iff]
  constructor
  · rintro ⟨names, rfl, hnames, hend⟩
    exact ⟨rfl, hnames, hend⟩
  · rintro ⟨hplace, hnames, hend⟩
    refine ⟨f.names, ?_, hnames, hend⟩
    rw [Found.below, List.nil_append, ← hplace]

theorem nodup_select (hd : d.WellFormed) {root : Location} (hroot : d.isDirectory root = true)
    {t : Text} {g : Glob} (hpattern : ofText t = .ok g)
    (hparent : parentName ∉ (Path.ofText t).names) : (g.select d root).Nodup :=
  nodup_selectFrom hd (mt (ofText_eq_ok hpattern).1.mem_of_name_mem hparent)
    (Disk.stands_of_isDirectory hroot)

end Glob

end Gloss
