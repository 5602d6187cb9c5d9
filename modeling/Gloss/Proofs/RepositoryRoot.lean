import Mathlib.Data.List.Flatten
import Gloss.Config.Load
import Gloss.Proofs.Disk
import Gloss.Proofs.Fallible

/-! The search for the root of a repository, which goes outwards from a directory until one is
marked or none is around it any more. It ends, at the nearest marked directory or, if there is none,
where it began. Only a look-up in the first directory can fail: where no name on the way to a
directory is too long, none is on the way to those around it. -/

namespace Gloss

/-! ### Locations and what is around them -/

namespace Location

variable {place p : Location}

theorem dropLast_eq_self_iff : place.dropLast = place ↔ place = [] := by
  constructor
  · intro h
    by_contra hplace
    have hpos := List.length_pos_iff.mpr hplace
    have hlength := congrArg List.length h
    rw [List.length_dropLast] at hlength
    omega
  · rintro rfl
    rfl

theorem length_dropLast_add_one (hplace : place ≠ []) :
    place.dropLast.length + 1 = place.length := by
  have hpos := List.length_pos_iff.mpr hplace
  rw [List.length_dropLast]
  omega

theorem prefix_iff_dropLast (hplace : place ≠ []) :
    p <+: place ↔ p = place ∨ p <+: place.dropLast := by
  conv_lhs => rw [← List.dropLast_append_getLast hplace]
  rw [List.prefix_concat_iff, List.dropLast_append_getLast]

theorem toText_concat_sublist (outer : Location) (inner name : Text) :
    (toText (outer ++ [name])).Sublist (toText (outer ++ [inner] ++ [name])) := by
  have hjoin : Text.join ['/'] ([inner] ++ [name]) = inner ++ ['/'] ++ name := rfl
  refine List.Sublist.cons_cons '/' ?_
  rw [List.append_assoc]
  by_cases houter : outer = []
  · rw [houter, List.nil_append, List.nil_append, hjoin]
    exact List.sublist_append_right _ _
  · rw [Text.join_append _ houter (List.cons_ne_nil name []),
      Text.join_append _ houter (List.concat_ne_nil name [inner]), hjoin]
    exact (List.sublist_append_right _ _).append_left _

end Location

namespace Disk

variable {d d' : Disk} {start place root : Location} {names : List Text} {mark : Mark}
  {e : ConfigError}

/-! ### Names that are too long -/

/-- Names lead to one that is too long if all those before it lead through directories. -/
theorem walk_eq_nameTooLong_iff : d.walk place names = .error .nameTooLong ↔
    ∃ front name back, names = front ++ name :: back ∧ isTooLong name = true ∧
      ∀ run, run <+: front → d.isDirectory (run.foldl Location.step place) = true := by
  induction names generalizing place with
  | nil =>
    rw [walk]
    constructor
    · intro h
      split at h
      · cases h
      · cases h
    · rintro ⟨front, name, back, heq, -⟩
      cases front <;> cases heq
  | cons first names ih =>
    by_cases hdirectory : d.isDirectory place = true
    · rw [walk, isDirectory_iff.mp hdirectory]
      dsimp only
      split
      · next hlong =>
        refine iff_of_true rfl ⟨[], first, names, rfl, hlong, fun run hrun => ?_⟩
        rw [List.prefix_nil.mp hrun]
        exact hdirectory
      · next hlong =>
        rw [ih]
        constructor
        · rintro ⟨front, name, back, rfl, hname, hfront⟩
          refine ⟨first :: front, name, back, rfl, hname, fun run hrun => ?_⟩
          obtain rfl | ⟨rest, rfl, hrest⟩ := List.prefix_cons_iff.mp hrun
          · exact hdirectory
          · exact hfront rest hrest
        · rintro ⟨_ | ⟨_, front⟩, name, back, heq, hname, hfront⟩
          · obtain ⟨rfl, -⟩ := List.cons.inj heq
            exact absurd hname hlong
          · obtain ⟨rfl, rfl⟩ := List.cons.inj heq
            exact ⟨front, name, back, rfl, hname,
              fun run hrun => hfront (first :: run) (List.cons_prefix_cons.mpr ⟨rfl, hrun⟩)⟩
    · constructor
      · intro h
        rw [walk] at h
        rcases hitem : d.item? place with _ | _ | content
        · rw [hitem] at h
          cases h
        · exact absurd (isDirectory_iff.mpr hitem) hdirectory
        · rw [hitem] at h
          cases h
      · rintro ⟨front, name, back, -, -, hfront⟩
        exact absurd (hfront [] List.nil_prefix) hdirectory

/-- The path of the location is too long, or a name on it that would be looked up in a directory. -/
def TooLong (d : Disk) (place : Location) : Prop :=
  maxPathBytes < (Utf8.encode place.toText).length ∨
    ∃ front name back, place = front ++ name :: back ∧ isTooLong name = true ∧
      ∀ run, run <+: front → d.isDirectory (run.foldl Location.step []) = true

theorem meetsLongName_ofLocation_iff :
    d.meetsLongName [] (Path.ofLocation place) = true ↔ d.TooLong place := by
  rw [meetsLongName_iff, find, TooLong, ← walk_eq_nameTooLong_iff]
  show (if maxPathBytes < (Utf8.encode place.toText).length then _ else d.walk [] place) = _ ↔ _
  split
  · next hlong => simp [hlong]
  · next hlong => simp [hlong]

theorem lookUp_eq_error_iff : d.lookUp place = .error e ↔ d.TooLong place ∧ e = .nameTooLong := by
  rw [lookUp, ← meetsLongName_ofLocation_iff]
  split
  · next hlong => simp [hlong, eq_comm]
  · next hlong => simp [hlong]

theorem lookUp_eq_ok_iff {item : Option Item} :
    d.lookUp place = .ok item ↔ ¬d.TooLong place ∧ item = d.item? place := by
  rw [lookUp, ← meetsLongName_ofLocation_iff]
  split
  · next hlong => simp [hlong]
  · next hlong => simp [hlong, eq_comm]

/-- What is too long around a directory is too long in it. -/
theorem tooLong_of_dropLast {name : Text} (hname : isTooLong name = false)
    (h : d.TooLong (place.dropLast ++ [name])) : d.TooLong (place ++ [name]) := by
  obtain rfl | ⟨outer, inner, rfl⟩ := List.eq_nil_or_concat' place
  · exact h
  · rw [List.dropLast_concat] at h
    rcases h with hbytes | ⟨front, long, back, heq, hlong, hfront⟩
    · have hsublist := (Location.toText_concat_sublist outer inner name).flatMap Utf8.encodeChar
      exact .inl (Nat.lt_of_lt_of_le hbytes hsublist.length_le)
    · -- The last name is not too long itself, so that the one which is stands before it.
      right
      obtain rfl | ⟨back, last, rfl⟩ := List.eq_nil_or_concat' back
      · obtain ⟨-, hlast⟩ := List.append_inj' heq rfl
        obtain ⟨rfl, -⟩ := List.cons.inj hlast
        rw [hname] at hlong
        cases hlong
      · refine ⟨front, long, back ++ [inner, name], ?_, hlong, hfront⟩
        rw [← List.cons_append, ← List.append_assoc] at heq
        rw [(List.append_inj' heq rfl).1]
        simp

/-! ### Marks -/

/-- The mark is there in the directory. -/
def Shows (d : Disk) (place : Location) (mark : Mark) : Prop :=
  (d.item? (place ++ [mark.name])).any mark.accepts = true

/-- The directory is the root of a repository or has a configuration. -/
def Marked (d : Disk) (place : Location) : Prop :=
  ∃ mark ∈ marks, d.Shows place mark

/-- When the marks of the directory are looked up, one is too far away before any is found. -/
def Overlong (d : Disk) (place : Location) : Prop :=
  ∃ before mark after, marks = before ++ mark :: after ∧ d.TooLong (place ++ [mark.name]) ∧
    ∀ earlier ∈ before, ¬d.TooLong (place ++ [earlier.name]) ∧ ¬d.Shows place earlier

theorem findsMark_eq_ok_iff {b : Bool} : d.findsMark place mark = .ok b ↔
    ¬d.TooLong (place ++ [mark.name]) ∧ (b = true ↔ d.Shows place mark) := by
  rw [findsMark, bind_eq_ok_iff, Shows, ← Bool.eq_iff_iff]
  simp only [lookUp_eq_ok_iff, pure, Except.pure, Except.ok.injEq]
  constructor
  · rintro ⟨item, ⟨hfits, rfl⟩, rfl⟩
    exact ⟨hfits, rfl⟩
  · rintro ⟨hfits, rfl⟩
    exact ⟨_, ⟨hfits, rfl⟩, rfl⟩

theorem findsMark_eq_error_iff : d.findsMark place mark = .error e ↔
    d.TooLong (place ++ [mark.name]) ∧ e = .nameTooLong := by
  rw [findsMark, bind_eq_error_iff]
  simp [lookUp_eq_error_iff, pure, Except.pure]

theorem isMarked_eq_error_iff :
    d.isMarked place = .error e ↔ d.Overlong place ∧ e = .nameTooLong := by
  rw [isMarked, anyM_eq_iff (by simp)]
  simp only [findsMark_eq_ok_iff, findsMark_eq_error_iff, Bool.false_eq_true, false_iff]
  constructor
  · rintro ⟨before, mark, after, heq, ⟨hlong, rfl⟩, hbefore⟩
    exact ⟨⟨before, mark, after, heq, hlong, hbefore⟩, rfl⟩
  · rintro ⟨⟨before, mark, after, heq, hlong, hbefore⟩, rfl⟩
    exact ⟨before, mark, after, heq, ⟨hlong, rfl⟩, hbefore⟩

theorem findsMark_of_isMarked (h : d.isMarked place = .ok false) (hmark : mark ∈ marks) :
    ¬d.TooLong (place ++ [mark.name]) ∧ ¬d.Shows place mark := by
  have hfinds := findsMark_eq_ok_iff.mp (anyM_eq_false_iff.mp h mark hmark)
  simpa using hfinds

/-- Where no name is too long, the test of a directory tells whether it is marked. -/
theorem isMarked_eq_ok_iff {b : Bool} :
    d.isMarked place = .ok b ↔ ¬d.Overlong place ∧ (b = true ↔ d.Marked place) := by
  have hmarked {b : Bool} (h : d.isMarked place = .ok b) : b = true ↔ d.Marked place := by
    cases b with
    | false =>
      refine iff_of_false Bool.false_ne_true ?_
      rintro ⟨mark, hmark, hshows⟩
      exact (findsMark_of_isMarked h hmark).2 hshows
    | true =>
      obtain ⟨before, mark, after, heq, hfinds, -⟩ := (anyM_eq_iff (by simp)).mp h
      refine iff_of_true rfl ⟨mark, ?_, (findsMark_eq_ok_iff.mp hfinds).2.mp rfl⟩
      rw [heq]
      exact List.mem_append_right before List.mem_cons_self
  constructor
  · refine fun h => ⟨fun hlong => ?_, hmarked h⟩
    rw [isMarked_eq_error_iff.mpr ⟨hlong, rfl⟩] at h
    cases h
  · rintro ⟨hfits, hb⟩
    cases h : d.isMarked place with
    | error e => exact absurd (isMarked_eq_error_iff.mp h).1 hfits
    | ok b' => rw [Bool.eq_iff_iff.mpr (hb.trans (hmarked h).symm)]

theorem isMarked_eq_true_iff :
    d.isMarked place = .ok true ↔ ¬d.Overlong place ∧ d.Marked place := by
  rw [isMarked_eq_ok_iff]
  simp

theorem isMarked_eq_false_iff :
    d.isMarked place = .ok false ↔ ¬d.Overlong place ∧ ¬d.Marked place := by
  rw [isMarked_eq_ok_iff]
  simp

theorem isTooLong_of_mem_marks (hmark : mark ∈ marks) : isTooLong mark.name = false := by
  revert mark
  decide

/-- If the marks of a directory can be looked up and none is there, so can those of the directory
around it. -/
theorem not_overlong_dropLast (hfits : ¬d.Overlong place) (hmarked : ¬d.Marked place) :
    ¬d.Overlong place.dropLast := by
  rintro ⟨before, mark, after, heq, hlong, -⟩
  have hmark : mark ∈ marks := by
    rw [heq]
    exact List.mem_append_right before List.mem_cons_self
  have hfalse := isMarked_eq_false_iff.mpr ⟨hfits, hmarked⟩
  exact (findsMark_of_isMarked hfalse hmark).1
    (tooLong_of_dropLast (isTooLong_of_mem_marks hmark) hlong)

/-! ### The nearest mark -/

/-- Among a directory and those around it, `root` is the marked one that is nearest to it. -/
structure NearestMark (d : Disk) (place root : Location) : Prop where
  marked : d.Marked root
  around : root <+: place
  nearest : ∀ p, root <+: p → p <+: place → d.Marked p → p = root

/-- Neither the directory nor one around it is marked. -/
def Unmarked (d : Disk) (place : Location) : Prop :=
  ∀ p, p <+: place → ¬d.Marked p

theorem nearestMark_self_iff (hmarked : d.Marked place) :
    d.NearestMark place root ↔ root = place := by
  constructor
  · exact fun h => (h.nearest place h.around List.prefix_rfl hmarked).symm
  · rintro rfl
    exact ⟨hmarked, List.prefix_rfl, fun p hroot hp _ => hp.eq_of_length_le hroot.length_le⟩

theorem NearestMark.not_unmarked (h : d.NearestMark place root) : ¬d.Unmarked place :=
  fun hnone => hnone root h.around h.marked

/-- Out of a directory without a mark the nearest mark stays the same. -/
theorem nearestMark_dropLast_iff (hplace : place ≠ []) (hmarked : ¬d.Marked place) :
    d.NearestMark place.dropLast root ↔ d.NearestMark place root := by
  constructor
  · intro h
    refine ⟨h.marked, h.around.trans (List.dropLast_prefix place), fun p hroot hp hp' => ?_⟩
    obtain rfl | hp := (Location.prefix_iff_dropLast hplace).mp hp
    · exact absurd hp' hmarked
    · exact h.nearest p hroot hp hp'
  · intro h
    refine ⟨h.marked, ?_, fun p hroot hp =>
      h.nearest p hroot (hp.trans (List.dropLast_prefix place))⟩
    obtain rfl | hroot := (Location.prefix_iff_dropLast hplace).mp h.around
    · exact absurd h.marked hmarked
    · exact hroot

theorem unmarked_dropLast_iff (hplace : place ≠ []) (hmarked : ¬d.Marked place) :
    d.Unmarked place.dropLast ↔ d.Unmarked place := by
  constructor
  · intro h p hp
    obtain rfl | hp := (Location.prefix_iff_dropLast hplace).mp hp
    · exact hmarked
    · exact h p hp
  · exact fun h p hp => h p (hp.trans (List.dropLast_prefix place))

theorem unmarked_nil (hmarked : ¬d.Marked []) : d.Unmarked [] := by
  intro p hp
  rwa [List.prefix_nil.mp hp]

namespace NearestMark

variable (h : d.NearestMark start root) (hroot : root <+: place) (hplace : place <+: start)

include h hroot hplace

/-- What is nearest to a directory is nearest to each one on the way there. -/
theorem on_way : d.NearestMark place root :=
  ⟨h.marked, hroot, fun p hp hp' => h.nearest p hp (hp'.trans hplace)⟩

/-- Where the marks of a directory can be looked up, so can those on the way to the nearest one. -/
theorem not_overlong (hfits : ¬d.Overlong start) : ¬d.Overlong place := by
  induction start using List.reverseRecOn with
  | nil => rwa [List.prefix_nil.mp hplace]
  | append_singleton outer name ih =>
    obtain rfl | hplace := List.prefix_concat_iff.mp hplace
    · exact hfits
    · have hmarked : ¬d.Marked (outer ++ [name]) := by
        intro hmarked
        have heq := h.nearest _ h.around List.prefix_rfl hmarked
        have hlength := (hroot.trans hplace).length_le
        rw [← heq, List.length_append, List.length_singleton] at hlength
        omega
      have hout := not_overlong_dropLast hfits hmarked
      have hnearest := (nearestMark_dropLast_iff (List.concat_ne_nil name outer) hmarked).mpr h
      rw [List.dropLast_concat] at hout hnearest
      exact ih hnearest hplace hout

end NearestMark

/-! ### The way outwards -/

theorem climb_of_error (h : d.isMarked place = .error e) : d.climb start place = .error e := by
  rw [climb, h]

theorem climb_of_marked (h : d.isMarked place = .ok true) : d.climb start place = .ok place := by
  rw [climb, h]

theorem climb_of_outermost (h : d.isMarked place = .ok false) (hroot : place.dropLast = place) :
    d.climb start place = .ok start := by
  rw [climb, h]
  exact if_pos hroot

theorem climb_of_unmarked (h : d.isMarked place = .ok false) (hroot : place.dropLast ≠ place) :
    d.climb start place = d.climb start place.dropLast := by
  rw [climb, h]
  exact if_neg hroot

/-- The way depends on the tests alone. -/
theorem climb_congr (h : ∀ p, d'.isMarked p = d.isMarked p) (start place : Location) :
    d'.climb start place = d.climb start place := by
  induction place using climb.induct d with
  | case1 place e hmarked => rw [climb_of_error hmarked, climb_of_error ((h place).trans hmarked)]
  | case2 place hmarked => rw [climb_of_marked hmarked, climb_of_marked ((h place).trans hmarked)]
  | case3 place hmarked hroot =>
    rw [climb_of_outermost hmarked hroot, climb_of_outermost ((h place).trans hmarked) hroot]
  | case4 place hmarked hroot ih =>
    rw [climb_of_unmarked hmarked hroot, climb_of_unmarked ((h place).trans hmarked) hroot, ih]

/-- The way outwards fails where it begins or not at all. -/
theorem climb_eq_error_iff :
    d.climb start place = .error e ↔ d.Overlong place ∧ e = .nameTooLong := by
  induction place using climb.induct d with
  | case1 place e' h =>
    obtain ⟨hlong, rfl⟩ := isMarked_eq_error_iff.mp h
    rw [climb_of_error h]
    simp [hlong, eq_comm]
  | case2 place h =>
    obtain ⟨hfits, -⟩ := isMarked_eq_true_iff.mp h
    rw [climb_of_marked h]
    simp [hfits]
  | case3 place h hroot =>
    obtain ⟨hfits, -⟩ := isMarked_eq_false_iff.mp h
    rw [climb_of_outermost h hroot]
    simp [hfits]
  | case4 place h hroot ih =>
    obtain ⟨hfits, hmarked⟩ := isMarked_eq_false_iff.mp h
    rw [climb_of_unmarked h hroot, ih]
    simp [hfits, not_overlong_dropLast hfits hmarked]

/-- The way outwards comes to the nearest marked directory, or back to where the search began if
there is none. -/
theorem climb_eq_ok_iff : d.climb start place = .ok root ↔ ¬d.Overlong place ∧
    (d.NearestMark place root ∨ d.Unmarked place ∧ root = start) := by
  induction place using climb.induct d with
  | case1 place e' h =>
    obtain ⟨hlong, rfl⟩ := isMarked_eq_error_iff.mp h
    rw [climb_of_error h]
    simp [hlong]
  | case2 place h =>
    obtain ⟨hfits, hmarked⟩ := isMarked_eq_true_iff.mp h
    have hnone : ¬d.Unmarked place := fun hnone => hnone place List.prefix_rfl hmarked
    rw [climb_of_marked h, nearestMark_self_iff hmarked]
    simp [hfits, hnone, eq_comm]
  | case3 place h hroot =>
    obtain ⟨hfits, hmarked⟩ := isMarked_eq_false_iff.mp h
    obtain rfl := Location.dropLast_eq_self_iff.mp hroot
    have hnone := unmarked_nil hmarked
    have hnearest : ¬d.NearestMark [] root := fun hnearest => hnearest.not_unmarked hnone
    rw [climb_of_outermost h hroot]
    simp [hfits, hnone, hnearest, eq_comm]
  | case4 place h hroot ih =>
    obtain ⟨hfits, hmarked⟩ := isMarked_eq_false_iff.mp h
    have hplace := mt Location.dropLast_eq_self_iff.mpr hroot
    rw [climb_of_unmarked h hroot, ih, nearestMark_dropLast_iff hplace hmarked,
      unmarked_dropLast_iff hplace hmarked]
    simp [hfits, not_overlong_dropLast hfits hmarked]

/-- The way from `place` outwards ends with `outcome` after `rounds` rounds, in each of which one
directory is tested. -/
inductive EndsIn (d : Disk) (start : Location) :
    Location → Nat → Except ConfigError Location → Prop
  | failed {place : Location} {e : ConfigError} (h : d.isMarked place = .error e) :
    EndsIn d start place 1 (.error e)
  | found {place : Location} (h : d.isMarked place = .ok true) : EndsIn d start place 1 (.ok place)
  | outermost {place : Location} (h : d.isMarked place = .ok false)
    (hroot : place.dropLast = place) : EndsIn d start place 1 (.ok start)
  | outwards {place : Location} {rounds : Nat} {outcome : Except ConfigError Location}
    (h : d.isMarked place = .ok false) (hroot : place.dropLast ≠ place)
    (hrest : EndsIn d start place.dropLast rounds outcome) :
    EndsIn d start place (rounds + 1) outcome

theorem exists_endsIn (d : Disk) (start place : Location) :
    ∃ rounds, d.EndsIn start place rounds (d.climb start place) := by
  induction place using climb.induct d with
  | case1 place e h => exact ⟨1, climb_of_error h ▸ .failed h⟩
  | case2 place h => exact ⟨1, climb_of_marked h ▸ .found h⟩
  | case3 place h hroot => exact ⟨1, climb_of_outermost h hroot ▸ .outermost h hroot⟩
  | case4 place h hroot ih =>
    obtain ⟨rounds, ih⟩ := ih
    exact ⟨rounds + 1, climb_of_unmarked h hroot ▸ .outwards h hroot ih⟩

namespace EndsIn

variable {rounds : Nat} {outcome : Except ConfigError Location}

theorem eq_climb (h : d.EndsIn start place rounds outcome) : outcome = d.climb start place := by
  induction h with
  | failed h => exact (climb_of_error h).symm
  | found h => exact (climb_of_marked h).symm
  | outermost h hroot => exact (climb_of_outermost h hroot).symm
  | outwards h hroot _ ih => exact ih.trans (climb_of_unmarked h hroot).symm

/-- There is at most one round for each directory at or around the first. -/
theorem rounds_le (h : d.EndsIn start place rounds outcome) : rounds ≤ place.length + 1 := by
  induction h with
  | failed | found | outermost => omega
  | outwards h hroot _ ih =>
    have := Location.length_dropLast_add_one (mt Location.dropLast_eq_self_iff.mpr hroot)
    omega

/-- No directory around the nearest marked one is tested. -/
theorem rounds_add_length (h : d.EndsIn start place rounds (.ok root))
    (hnearest : d.NearestMark place root) : rounds + root.length = place.length + 1 := by
  generalize hout : Except.ok root = outcome at h
  induction h with
  | failed h => cases hout
  | found h =>
    obtain rfl := Except.ok.inj hout
    omega
  | outermost h hroot =>
    obtain ⟨-, hmarked⟩ := isMarked_eq_false_iff.mp h
    obtain rfl := Location.dropLast_eq_self_iff.mp hroot
    exact absurd (unmarked_nil hmarked) hnearest.not_unmarked
  | outwards h hroot _ ih =>
    obtain ⟨-, hmarked⟩ := isMarked_eq_false_iff.mp h
    have hplace := mt Location.dropLast_eq_self_iff.mpr hroot
    have hrest := ih ((nearestMark_dropLast_iff hplace hmarked).mpr hnearest) hout
    have hlength := Location.length_dropLast_add_one hplace
    omega

end EndsIn

/-! ### The root of a repository -/

theorem repositoryRoot_eq_ok_iff : d.repositoryRoot start = .ok root ↔ ¬d.Overlong start ∧
    (d.NearestMark start root ∨ d.Unmarked start ∧ root = start) :=
  climb_eq_ok_iff

theorem repositoryRoot_eq_error_iff :
    d.repositoryRoot start = .error e ↔ d.Overlong start ∧ e = .nameTooLong :=
  climb_eq_error_iff

theorem repositoryRoot_prefix (h : d.repositoryRoot start = .ok root) : root <+: start := by
  obtain ⟨-, hnearest | ⟨-, rfl⟩⟩ := repositoryRoot_eq_ok_iff.mp h
  · exact hnearest.around
  · exact List.prefix_rfl

/-- The marks, one by one. A file with the name of a configuration's directory is none. -/
theorem marked_iff : d.Marked place ↔ (d.item? (place ++ [".git".toList])).isSome = true ∨
    (d.item? (place ++ ["pyproject.toml".toList])).isSome = true ∨
    d.isDirectory (place ++ [configDirectory]) = true := by
  have hsome (item : Option Item) : item.any (fun _ => true) = item.isSome := by
    cases item with
    | none => rfl
    | some item => rfl
  simp only [Marked, marks, Shows, isDirectory, List.exists_mem_cons_iff, hsome, List.not_mem_nil,
    false_and, exists_false, or_false]

/-- The search for the root of a repository ends after at most one round for each directory at or
around the first, and fails only if the marks of the first are too far away. Otherwise it comes to
the nearest directory, at or around the first, that is marked, and tests none around that; if none
is marked, it comes back to the first. A second search from there comes to nothing else, and neither
does one that begins on the way to a marked directory.

How far away a mark may be is up to the system: `maxNameBytes` and `maxPathBytes` are the limits of
Linux. -/
theorem repositoryRoot_nearest (d : Disk) (start : Location) :
    (∃ rounds ≤ start.length + 1, d.EndsIn start start rounds (d.repositoryRoot start)) ∧
    (∀ rounds outcome, d.EndsIn start start rounds outcome → outcome = d.repositoryRoot start) ∧
    (∀ e, d.repositoryRoot start = .error e ↔ d.Overlong start ∧ e = .nameTooLong) ∧
    (∀ p, d.Marked p ↔ (d.item? (p ++ [".git".toList])).isSome = true ∨
      (d.item? (p ++ ["pyproject.toml".toList])).isSome = true ∨
      d.isDirectory (p ++ [configDirectory]) = true) ∧
    (¬d.Overlong start → ∃ root, d.repositoryRoot start = .ok root ∧
      (d.NearestMark start root ∨ d.Unmarked start ∧ root = start) ∧
      d.repositoryRoot root = .ok root ∧
      (d.NearestMark start root →
        (∃ rounds, d.EndsIn start start rounds (.ok root) ∧
          rounds + root.length = start.length + 1) ∧
        ∀ p, root <+: p → p <+: start → d.repositoryRoot p = .ok root)) := by
  obtain ⟨rounds, hends⟩ := d.exists_endsIn start start
  refine ⟨⟨rounds, hends.rounds_le, hends⟩, fun _ _ h => h.eq_climb,
    fun e => repositoryRoot_eq_error_iff, fun p => marked_iff, fun hfits => ?_⟩
  obtain ⟨root, hroot⟩ : ∃ root, d.repositoryRoot start = .ok root := by
    cases h : d.repositoryRoot start with
    | error e => exact absurd (repositoryRoot_eq_error_iff.mp h).1 hfits
    | ok root => exact ⟨root, rfl⟩
  obtain ⟨-, hfound⟩ := repositoryRoot_eq_ok_iff.mp hroot
  have hway (hnearest : d.NearestMark start root) {p : Location} (hp : root <+: p)
      (hp' : p <+: start) : d.repositoryRoot p = .ok root :=
    repositoryRoot_eq_ok_iff.mpr
      ⟨hnearest.not_overlong hp hp' hfits, .inl (hnearest.on_way hp hp')⟩
  refine ⟨root, hroot, hfound, ?_, fun hnearest => ⟨⟨rounds, ?_⟩, fun p => hway hnearest⟩⟩
  · obtain hnearest | ⟨-, rfl⟩ := hfound
    · exact hway hnearest List.prefix_rfl hnearest.around
    · exact hroot
  · have hends' : d.EndsIn start start rounds (.ok root) := hroot ▸ hends
    exact ⟨hends', hends'.rounds_add_length hnearest⟩

/-- A tree with a repository `r` and, in its directory `a`, a file by the name of the directory of a
configuration. -/
def treeWithRepository : Disk :=
  ⟨[([['r']], .directory), ([['r'], ".git".toList], .directory), ([['r'], ['a']], .directory),
    ([['r'], ['a'], configDirectory], .file [])]⟩

/-- The search from a directory that is not there passes by the file. -/
theorem repositoryRoot_nearest_passing :
    let d := treeWithRepository
    let start : Location := [['r'], ['a'], ['b']]
    d.WellFormed ∧ ¬d.Overlong start ∧ d.item? start = none ∧ d.repositoryRoot start = .ok [['r']] ∧
      d.NearestMark start [['r']] ∧ d.EndsIn start start 3 (.ok [['r']]) ∧
      d.repositoryRoot [['r'], ['a']] = .ok [['r']] := by
  intro d start
  have hwellFormed : d.WellFormed := by decide
  have hroot : d.repositoryRoot start = .ok [['r']] := by decide +kernel
  obtain ⟨hfits, hfound⟩ := repositoryRoot_eq_ok_iff.mp hroot
  have hnearest : d.NearestMark start [['r']] :=
    hfound.resolve_right fun hnone => absurd hnone.2 (by decide)
  obtain ⟨-, -, -, -, hsearch⟩ := repositoryRoot_nearest d start
  obtain ⟨root, hroot', -, -, hnear⟩ := hsearch hfits
  obtain rfl := Except.ok.inj (hroot.symm.trans hroot')
  obtain ⟨⟨rounds, hends, hlength⟩, hway⟩ := hnear hnearest
  obtain rfl : rounds = 3 := Nat.succ.inj hlength
  exact ⟨hwellFormed, hfits, by decide +kernel, hroot, hnearest, hends,
    hway _ ⟨[['a']], rfl⟩ ⟨[['b']], rfl⟩⟩

/-- The search does not come to anything from a location with a name of 256 bytes, although that is
no other than a location where nothing stands. -/
theorem repositoryRoot_of_long_name :
    ¬∀ (d : Disk) (start : Location), d.WellFormed → (∀ name ∈ start, IsName name) →
      ∃ root, d.repositoryRoot start = .ok root ∧
        (d.NearestMark start root ∨ d.Unmarked start ∧ root = start) := by
  intro h
  have hname : ∀ name ∈ [List.replicate 256 'a'], IsName name := by decide +kernel
  have hempty : empty.WellFormed := by decide
  have hfails : empty.repositoryRoot [List.replicate 256 'a'] = .error .nameTooLong := by
    decide +kernel
  obtain ⟨root, hroot, -⟩ := h empty [List.replicate 256 'a'] hempty hname
  rw [hfails] at hroot
  cases hroot

end Disk

end Gloss
