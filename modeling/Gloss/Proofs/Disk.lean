import Mathlib.Data.List.Induction
import Mathlib.Data.List.Nodup
import Gloss.Disk
import Gloss.Proofs.Path

/-! Facts about directory trees that are well formed: what stands somewhere stands in directories,
the names in a directory are all different, and nothing depends on the order in which the items are
listed. Where names lead does not depend on what the files hold either, and writing a file over
another changes nothing else. -/

namespace Gloss

namespace Disk

variable {d d' : Disk} {place p : Location} {item : Item} {name : Text} {names : List Text}

theorem isDirectory_iff : d.isDirectory place = true ↔ d.item? place = some .directory := by
  rw [isDirectory, Option.any_eq_true]
  constructor
  · rintro ⟨_ | _, hitem, hdirectory⟩
    · exact hitem
    · cases hdirectory
  · exact fun hitem => ⟨_, hitem, rfl⟩

theorem isFile_iff : d.isFile place = true ↔ ∃ content, d.item? place = some (.file content) := by
  rw [isFile, Option.any_eq_true]
  constructor
  · rintro ⟨_ | content, hitem, hfile⟩
    · cases hfile
    · exact ⟨content, hitem⟩
  · rintro ⟨content, hitem⟩
    exact ⟨_, hitem, rfl⟩

theorem content?_eq_some_iff {content : Bytes} :
    d.content? place = some content ↔ d.item? place = some (.file content) := by
  rw [content?]
  rcases d.item? place with _ | _ | found
  · simp
  · simp
  · simp

theorem isSome_item?_of_isDirectory (h : d.isDirectory place = true) :
    (d.item? place).isSome = true := by
  rw [isDirectory_iff.mp h]
  rfl

theorem isSome_item?_of_isFile (h : d.isFile place = true) : (d.item? place).isSome = true := by
  obtain ⟨content, hitem⟩ := isFile_iff.mp h
  rw [hitem]
  rfl

theorem not_isDirectory_of_isFile (h : d.isFile place = true) : d.isDirectory place = false := by
  obtain ⟨content, hitem⟩ := isFile_iff.mp h
  rw [isDirectory, hitem]
  rfl

/-- The root is no file. -/
theorem ne_nil_of_isFile (h : d.isFile place = true) : place ≠ [] := by
  rintro rfl
  cases h

/-! ### Items -/

/-- In a list without a key that comes twice, looking a key up finds what stands with it. -/
theorem lookup_eq_some_iff_mem {items : List (Location × Item)}
    (hnodup : (items.map (·.1)).Nodup) :
    items.lookup place = some item ↔ (place, item) ∈ items := by
  have hmem {other : Item} (hother : items.lookup place = some other) : (place, other) ∈ items := by
    obtain ⟨before, after, heq, -⟩ := List.lookup_eq_some_iff.mp hother
    rw [heq]
    exact List.mem_append_right before List.mem_cons_self
  refine ⟨hmem, fun hitem => ?_⟩
  have hsome : (items.lookup place).isSome = true := by
    rw [List.lookup_isSome_iff]
    exact ⟨_, hitem, beq_self_eq_true place⟩
  obtain ⟨other, hother⟩ := Option.isSome_iff_exists.mp hsome
  have heq := List.inj_on_of_nodup_map hnodup (hmem hother) hitem rfl
  rw [hother, (Prod.mk.inj heq).2]

theorem item?_of_ne_nil (d : Disk) (hplace : place ≠ []) :
    d.item? place = d.items.lookup place :=
  if_neg hplace

theorem isSome_item?_concat :
    (d.item? (place ++ [name])).isSome = true ↔ ∃ x ∈ d.items, x.1 = place ++ [name] := by
  rw [item?_of_ne_nil d (List.concat_ne_nil name place), List.lookup_isSome_iff]
  simp only [beq_iff_eq, eq_comm (a := place ++ [name])]

theorem wellFormed_iff : d.WellFormed ↔ (d.items.map (·.1)).Nodup ∧ ∀ x ∈ d.items,
    (x.1 ≠ [] ∧ d.isDirectory x.1.dropLast = true) ∧
      (∀ name ∈ x.1, IsName name ∧ isTooLong name = false) ∧
      (Utf8.encode (Location.toText x.1)).length ≤ maxPathBytes := by
  constructor
  · exact fun h => ⟨h.nodup, fun x hx => ⟨h.proper x hx,
      fun name hname => ⟨h.names x hx name hname, h.shortNames x hx name hname⟩,
      h.shortPath x hx⟩⟩
  · rintro ⟨hnodup, hitems⟩
    exact ⟨hnodup, fun x hx => (hitems x hx).1,
      fun x hx name hname => ((hitems x hx).2.1 name hname).1,
      fun x hx name hname => ((hitems x hx).2.1 name hname).2, fun x hx => (hitems x hx).2.2⟩

instance (d : Disk) : Decidable d.WellFormed :=
  decidable_of_iff _ wellFormed_iff.symm

namespace WellFormed

theorem item?_eq_some_iff (hd : d.WellFormed) (hplace : place ≠ []) :
    d.item? place = some item ↔ (place, item) ∈ d.items := by
  rw [item?_of_ne_nil d hplace, lookup_eq_some_iff_mem hd.nodup]

theorem item?_of_mem (hd : d.WellFormed) (hitem : (place, item) ∈ d.items) :
    d.item? place = some item :=
  (hd.item?_eq_some_iff (hd.proper _ hitem).1).mpr hitem

/-- What stands at a location with a last name stands in a directory. -/
theorem isDirectory_of_concat (hd : d.WellFormed)
    (hitem : (d.item? (place ++ [name])).isSome = true) : d.isDirectory place = true := by
  obtain ⟨x, hx, heq⟩ := isSome_item?_concat.mp hitem
  have hproper := (hd.proper x hx).2
  rwa [heq, List.dropLast_concat] at hproper

/-- What something stands below is a directory. -/
theorem isDirectory_of_append (hd : d.WellFormed) (hnames : names ≠ [])
    (hitem : (d.item? (place ++ names)).isSome = true) : d.isDirectory place = true := by
  induction names using List.reverseRecOn with
  | nil => exact absurd rfl hnames
  | append_singleton names name ih =>
    rw [← List.append_assoc] at hitem
    have hdirectory := hd.isDirectory_of_concat hitem
    by_cases hnil : names = []
    · rwa [hnil, List.append_nil] at hdirectory
    · exact ih hnil (isSome_item?_of_isDirectory hdirectory)

theorem isName_of_mem (hd : d.WellFormed) (hitem : (d.item? place).isSome = true)
    (hname : name ∈ place) : IsName name := by
  obtain ⟨item, hitem⟩ := Option.isSome_iff_exists.mp hitem
  have hplace := List.ne_nil_of_mem hname
  exact hd.names _ ((hd.item?_eq_some_iff hplace).mp hitem) name hname

theorem isTooLong_of_mem (hd : d.WellFormed) (hitem : (d.item? place).isSome = true)
    (hname : name ∈ place) : isTooLong name = false := by
  obtain ⟨item, hitem⟩ := Option.isSome_iff_exists.mp hitem
  have hplace := List.ne_nil_of_mem hname
  exact hd.shortNames _ ((hd.item?_eq_some_iff hplace).mp hitem) name hname

end WellFormed

/-! ### Directories -/

/-- The test by which the names in a directory are chosen. -/
theorem ite_dropLast_eq_some_iff :
    (if p ≠ [] ∧ p.dropLast = place then p.getLast? else none) = some name ↔
      p = place ++ [name] := by
  rw [Option.ite_none_right_eq_some]
  constructor
  · rintro ⟨⟨-, rfl⟩, hlast⟩
    exact (List.dropLast_append_getLast? name hlast).symm
  · rintro rfl
    exact ⟨⟨List.concat_ne_nil name place, List.dropLast_concat⟩, List.getLast?_concat⟩

theorem mem_children : name ∈ d.children place ↔ (d.item? (place ++ [name])).isSome = true := by
  rw [isSome_item?_concat, children, List.mem_filterMap]
  exact exists_congr fun x => and_congr_right fun _ => ite_dropLast_eq_some_iff

namespace WellFormed

theorem nodup_children (hd : d.WellFormed) (place : Location) : (d.children place).Nodup := by
  -- The names are chosen by the locations alone, and a location and its last name give each other.
  have heq : d.children place = (d.items.map (·.1)).filterMap fun p =>
      if p ≠ [] ∧ p.dropLast = place then p.getLast? else none := by
    rw [List.filterMap_map]
    rfl
  rw [heq]
  refine hd.nodup.filterMap fun p q name hp hq => ?_
  rw [ite_dropLast_eq_some_iff.mp hp, ite_dropLast_eq_some_iff.mp hq]

/-- The directories at and below a directory are itself and those at the locations that continue its
own. -/
theorem mem_directoriesFrom (hd : d.WellFormed) : p ∈ d.directoriesFrom place ↔
    p = place ∨ ∃ run, p = place ++ run ∧ d.isDirectory p = true := by
  rw [directoriesFrom, List.mem_cons, List.mem_filterMap]
  refine or_congr_right' fun hne => ?_
  constructor
  · rintro ⟨⟨q, item⟩, hx, hkept⟩
    obtain ⟨⟨hitem, hbelow, -⟩, hq⟩ := Option.ite_none_right_eq_some.mp hkept
    obtain rfl := Option.some.inj hq
    obtain ⟨run, hrun⟩ := List.isPrefixOf_iff_prefix.mp hbelow
    refine ⟨run, hrun.symm, ?_⟩
    rw [isDirectory, hd.item?_of_mem hx]
    exact hitem
  · rintro ⟨run, rfl, hdirectory⟩
    have hnil : place ++ run ≠ [] := fun h => hne (h.trans (List.append_eq_nil_iff.mp h).1.symm)
    exact ⟨_, (hd.item?_eq_some_iff hnil).mp (isDirectory_iff.mp hdirectory), if_pos
      ⟨rfl, List.isPrefixOf_iff_prefix.mpr (List.prefix_append place run), hne⟩⟩

theorem mem_directoriesFrom_of_isDirectory (hd : d.WellFormed)
    (hplace : d.isDirectory place = true) :
    p ∈ d.directoriesFrom place ↔ ∃ run, p = place ++ run ∧ d.isDirectory p = true := by
  rw [hd.mem_directoriesFrom, or_iff_right_iff_imp]
  rintro rfl
  exact ⟨[], (List.append_nil p).symm, hplace⟩

/-- Names lead from a directory to those below it. -/
theorem exists_run_of_mem_directoriesFrom (hd : d.WellFormed) (h : p ∈ d.directoriesFrom place) :
    ∃ run, p = place ++ run ∧ ∀ name ∈ run, IsName name := by
  rcases hd.mem_directoriesFrom.mp h with rfl | ⟨run, rfl, hdirectory⟩
  · exact ⟨[], (List.append_nil p).symm, List.forall_mem_nil _⟩
  · have hitem := isSome_item?_of_isDirectory hdirectory
    exact ⟨run, rfl, fun name hname => hd.isName_of_mem hitem (List.mem_append_right place hname)⟩

theorem nodup_directoriesFrom (hd : d.WellFormed) (place : Location) :
    (d.directoriesFrom place).Nodup := by
  rw [directoriesFrom, List.nodup_cons]
  constructor
  · intro hplace
    obtain ⟨x, -, hx⟩ := List.mem_filterMap.mp hplace
    obtain ⟨⟨-, -, hne⟩, heq⟩ := Option.ite_none_right_eq_some.mp hx
    exact hne (Option.some.inj heq)
  · -- A directory is listed once, since its location is.
    refine hd.nodup.of_map.filterMap fun x y p hx hy => ?_
    obtain ⟨⟨hitem, -⟩, heq⟩ := Option.ite_none_right_eq_some.mp hx
    obtain ⟨⟨hitem', -⟩, heq'⟩ := Option.ite_none_right_eq_some.mp hy
    obtain ⟨q, _ | _⟩ := x
    · obtain ⟨q', _ | _⟩ := y
      · obtain rfl := Option.some.inj heq
        obtain rfl := Option.some.inj heq'
        rfl
      · cases hitem'
    · cases hitem

end WellFormed

/-! ### Trees of one shape -/

/-- The trees have their directories and their files at the same locations. -/
def SameShape (d' d : Disk) : Prop :=
  ∀ place, (d'.item? place).map Item.isDirectory = (d.item? place).map Item.isDirectory

theorem walk_cons : d.walk place (name :: names) =
    match (d.item? place).map Item.isDirectory with
    | none => .error .missing
    | some false => .error .notDirectory
    | some true =>
      if isTooLong name then .error .nameTooLong else d.walk (place.step name) names := by
  rw [walk]
  rcases d.item? place with _ | _ | content
  · rfl
  · rfl
  · rfl

namespace SameShape

variable (h : SameShape d' d)

include h

theorem isSome_eq : (d'.item? place).isSome = (d.item? place).isSome := by
  rw [← Option.isSome_map (f := Item.isDirectory), h place, Option.isSome_map]

theorem isDirectory_eq : d'.isDirectory place = d.isDirectory place := by
  have heq (d : Disk) : d.isDirectory place = ((d.item? place).map Item.isDirectory).any id := by
    rw [Option.any_map]
    rfl
  rw [heq d', heq d, h place]

theorem isFile_eq : d'.isFile place = d.isFile place := by
  have heq (d : Disk) : d.isFile place = ((d.item? place).map Item.isDirectory).any not := by
    rw [isFile]
    rcases d.item? place with _ | _ | content
    · rfl
    · rfl
    · rfl
  rw [heq d', heq d, h place]

/-- The same names lead to the same locations. -/
theorem walk_eq : d'.walk place names = d.walk place names := by
  induction names generalizing place with
  | nil => rw [walk, walk, h.isSome_eq]
  | cons name names ih => rw [walk_cons, walk_cons, h place, ih]

theorem find_eq {cwd : Location} {path : Path} : d'.find cwd path = d.find cwd path := by
  rw [find, find, h.walk_eq]

end SameShape

namespace WellFormed

variable (hd : d.WellFormed) (hd' : d'.WellFormed) (hshape : SameShape d' d)

include hd hd' hshape

theorem children_perm (place : Location) : (d'.children place).Perm (d.children place) := by
  rw [List.perm_ext_iff_of_nodup (hd'.nodup_children place) (hd.nodup_children place)]
  intro name
  rw [mem_children, mem_children, hshape.isSome_eq]

theorem directoriesFrom_perm (place : Location) :
    (d'.directoriesFrom place).Perm (d.directoriesFrom place) := by
  rw [List.perm_ext_iff_of_nodup (hd'.nodup_directoriesFrom place)
    (hd.nodup_directoriesFrom place)]
  intro p
  rw [hd'.mem_directoriesFrom, hd.mem_directoriesFrom, hshape.isDirectory_eq]

end WellFormed

/-! ### Lists of the same items -/

namespace WellFormed

theorem item?_of_perm (hd : d.WellFormed) (hperm : d'.items.Perm d.items) :
    d'.item? place = d.item? place := by
  by_cases hplace : place = []
  · rw [hplace]
    rfl
  · rw [item?_of_ne_nil d hplace, item?_of_ne_nil d' hplace]
    apply Option.ext
    intro item
    have hnodup := (hperm.map (·.1)).nodup_iff.mpr hd.nodup
    rw [lookup_eq_some_iff_mem hd.nodup, lookup_eq_some_iff_mem hnodup, hperm.mem_iff]

theorem sameShape_of_perm (hd : d.WellFormed) (hperm : d'.items.Perm d.items) : SameShape d' d :=
  fun _ => by rw [hd.item?_of_perm hperm]

theorem content?_of_perm (hd : d.WellFormed) (hperm : d'.items.Perm d.items) :
    d'.content? place = d.content? place := by
  rw [content?, content?, hd.item?_of_perm hperm]

theorem of_perm (hd : d.WellFormed) (hperm : d'.items.Perm d.items) : d'.WellFormed where
  nodup := (hperm.map (·.1)).nodup_iff.mpr hd.nodup
  proper x hx := by
    rw [(hd.sameShape_of_perm hperm).isDirectory_eq]
    exact hd.proper x (hperm.mem_iff.mp hx)
  names x hx := hd.names x (hperm.mem_iff.mp hx)
  shortNames x hx := hd.shortNames x (hperm.mem_iff.mp hx)
  shortPath x hx := hd.shortPath x (hperm.mem_iff.mp hx)

end WellFormed

/-! ### Walks -/

/-- A walk that gets somewhere takes its first name from a directory. -/
theorem walk_cons_eq_ok (h : d.walk place (name :: names) = .ok p) :
    d.walk (place.step name) names = .ok p := by
  rw [walk] at h
  split at h
  · cases h
  · cases h
  · split at h
    · cases h
    · exact h

theorem isSome_item?_of_walk (h : d.walk place names = .ok p) :
    (d.item? place).isSome = true := by
  cases names with
  | nil =>
    rw [walk] at h
    split at h
    · assumption
    · cases h
  | cons name names =>
    rw [walk] at h
    split at h
    · cases h
    · cases h
    · next hitem => rw [hitem]; rfl

/-- A walk ends where its names lead, and none of them holds U+0000. -/
theorem WellFormed.walk_eq_ok (hd : d.WellFormed) (h : d.walk place names = .ok p) :
    names.foldl Location.step place = p ∧ ∀ name ∈ names, '\x00' ∉ name := by
  induction names generalizing place with
  | nil =>
    rw [walk] at h
    split at h
    · exact ⟨Except.ok.inj h, fun _ hname => by cases hname⟩
    · cases h
  | cons name names ih =>
    have hrest := walk_cons_eq_ok h
    obtain ⟨hend, hnames⟩ := ih hrest
    refine ⟨hend, List.forall_mem_cons.mpr ⟨?_, hnames⟩⟩
    by_cases hparent : name = parentName
    · rw [hparent]
      decide
    · have hnext := isSome_item?_of_walk hrest
      rw [Location.step, if_neg hparent] at hnext
      exact (hd.isName_of_mem hnext (List.mem_append_right place List.mem_cons_self)).no_nul

theorem find_eq_ok {cwd : Location} {path : Path} (h : d.find cwd path = .ok p) :
    d.walk (if path.isAbsolute then [] else cwd) path.names = .ok p := by
  rw [find] at h
  split at h
  · cases h
  · exact h

theorem WellFormed.resolve_of_find (hd : d.WellFormed) {cwd : Location} {path : Path}
    (h : d.find cwd path = .ok p) : path.resolve cwd = p :=
  (hd.walk_eq_ok (find_eq_ok h)).1

theorem WellFormed.hasNul_of_find (hd : d.WellFormed) {cwd : Location} {path : Path}
    (h : d.find cwd path = .ok p) : path.hasNul = false := by
  rw [Path.hasNul, List.any_eq_false]
  intro name hname
  simpa using (hd.walk_eq_ok (find_eq_ok h)).2 name hname

theorem WellFormed.walk_append (hd : d.WellFormed)
    (hitem : (d.item? (place ++ names)).isSome = true) :
    d.walk place names = .ok (place ++ names) := by
  induction names generalizing place with
  | nil =>
    rw [List.append_nil] at hitem ⊢
    rw [walk, if_pos hitem]
  | cons name names ih =>
    have hmem : name ∈ place ++ name :: names := List.mem_append_right place List.mem_cons_self
    have hdirectory := hd.isDirectory_of_append (List.cons_ne_nil name names) hitem
    have hshort := hd.isTooLong_of_mem hitem hmem
    have hstep : place.step name = place ++ [name] :=
      if_neg (hd.isName_of_mem hitem hmem).ne_parent
    rw [List.append_cons] at hitem ⊢
    rw [walk_cons, isDirectory_iff.mp hdirectory, hstep, ← ih hitem]
    simp only [Option.map_some, Item.isDirectory, hshort, Bool.false_eq_true, if_false]

/-- What is there is found by its path, wherever one stands. -/
theorem WellFormed.find_ofLocation (hd : d.WellFormed) (hitem : (d.item? place).isSome = true)
    (cwd : Location) : d.find cwd (Path.ofLocation place) = .ok place := by
  have hshort : (Utf8.encode (Path.ofLocation place).toText).length ≤ maxPathBytes := by
    by_cases hplace : place = []
    · rw [hplace]
      decide
    · obtain ⟨item, hitem⟩ := Option.isSome_iff_exists.mp hitem
      exact hd.shortPath _ ((hd.item?_eq_some_iff hplace).mp hitem)
  rw [find, if_neg (Nat.not_lt.mpr hshort)]
  exact hd.walk_append hitem

/-- A file that is there is read by its path. -/
theorem WellFormed.read_ofLocation (hd : d.WellFormed) {content : Bytes}
    (hcontent : d.content? place = some content) (cwd : Location) :
    d.read cwd (Path.ofLocation place) = .ok content := by
  have hitem := content?_eq_some_iff.mp hcontent
  rw [read, hd.find_ofLocation (by rw [hitem]; rfl) cwd]
  simp only [bind, Except.bind, hitem]
  rfl

/-! ### Writing over a file -/

theorem mem_items_put {other : Item} : (p, other) ∈ (d.put place item).items ↔
    p = place ∧ other = item ∨ p ≠ place ∧ (p, other) ∈ d.items := by
  simp only [put, List.mem_append, List.mem_filter, decide_eq_true_eq, List.mem_singleton,
    Prod.mk.injEq, and_comm, or_comm]

namespace WellFormed

theorem nodup_put (hd : d.WellFormed) (place : Location) (item : Item) :
    ((d.put place item).items.map (·.1)).Nodup := by
  have hkept : ((d.items.filter (·.1 ≠ place)).map (·.1)).Nodup :=
    hd.nodup.sublist (List.filter_sublist.map _)
  rw [put, List.map_append, List.map_singleton, ← List.concat_eq_append]
  refine hkept.concat fun hplace => ?_
  obtain ⟨x, hx, heq⟩ := List.mem_map.mp hplace
  exact of_decide_eq_true (List.mem_filter.mp hx).2 heq

theorem item?_put (hd : d.WellFormed) (hplace : place ≠ []) :
    (d.put place item).item? p = if p = place then some item else d.item? p := by
  by_cases hp : p = []
  · rw [hp, if_neg (Ne.symm hplace)]
    rfl
  · rw [item?_of_ne_nil _ hp]
    apply Option.ext
    intro other
    rw [lookup_eq_some_iff_mem (hd.nodup_put place item), mem_items_put]
    by_cases heq : p = place
    · simp only [heq, if_true, true_and, not_true, false_and, or_false, ne_eq, Option.some.injEq,
        eq_comm]
    · rw [if_neg heq, hd.item?_eq_some_iff hp]
      simp only [heq, false_and, false_or, ne_eq, not_false_eq_true, true_and]

section File

variable (hd : d.WellFormed) (hfile : d.isFile place = true) (content : Bytes)

include hd hfile

theorem mem_of_isFile : ∃ content, (place, .file content) ∈ d.items := by
  obtain ⟨content, hitem⟩ := isFile_iff.mp hfile
  exact ⟨content, (hd.item?_eq_some_iff (ne_nil_of_isFile hfile)).mp hitem⟩

theorem sameShape_put : SameShape (d.put place (.file content)) d := by
  intro p
  rw [hd.item?_put (ne_nil_of_isFile hfile)]
  split
  · next heq =>
    obtain ⟨before, hitem⟩ := isFile_iff.mp hfile
    rw [heq, hitem]
    rfl
  · rfl

/-- What stands in the tree stood at the same location before. -/
theorem exists_of_mem_put {x : Location × Item} (hx : x ∈ (d.put place (.file content)).items) :
    ∃ y ∈ d.items, y.1 = x.1 := by
  obtain ⟨before, hbefore⟩ := hd.mem_of_isFile hfile
  rcases mem_items_put.mp hx with ⟨heq, -⟩ | ⟨-, hmem⟩
  · exact ⟨_, hbefore, heq.symm⟩
  · exact ⟨_, hmem, rfl⟩

theorem put_file : (d.put place (.file content)).WellFormed where
  nodup := hd.nodup_put place _
  proper x hx := by
    obtain ⟨y, hy, heq⟩ := hd.exists_of_mem_put hfile content hx
    rw [← heq, (hd.sameShape_put hfile content).isDirectory_eq]
    exact hd.proper y hy
  names x hx := by
    obtain ⟨y, hy, heq⟩ := hd.exists_of_mem_put hfile content hx
    exact heq ▸ hd.names y hy
  shortNames x hx := by
    obtain ⟨y, hy, heq⟩ := hd.exists_of_mem_put hfile content hx
    exact heq ▸ hd.shortNames y hy
  shortPath x hx := by
    obtain ⟨y, hy, heq⟩ := hd.exists_of_mem_put hfile content hx
    exact heq ▸ hd.shortPath y hy

theorem content?_put : (d.put place (.file content)).content? p =
    if p = place then some content else d.content? p := by
  have hitem : (d.put place (.file content)).item? p = if p = place then some (.file content)
      else d.item? p := hd.item?_put (ne_nil_of_isFile hfile)
  by_cases heq : p = place
  · rw [if_pos heq] at hitem ⊢
    rw [Disk.content?, hitem]
  · rw [if_neg heq] at hitem ⊢
    rw [Disk.content?, Disk.content?, hitem]

end File

theorem isSome_item?_of_append (hd : d.WellFormed)
    (hitem : (d.item? (place ++ names)).isSome = true) : (d.item? place).isSome = true := by
  by_cases hnames : names = []
  · rwa [hnames, List.append_nil] at hitem
  · exact isSome_item?_of_isDirectory (hd.isDirectory_of_append hnames hitem)

/-- On the way to what is there, no directory is missing. -/
theorem ensureDirectory_eq (hd : d.WellFormed)
    (hitem : (d.item? (place ++ names)).isSome = true) : d.ensureDirectory place names = d := by
  induction names generalizing place with
  | nil => rfl
  | cons name names ih =>
    rw [List.append_cons] at hitem
    have hnext := hd.isSome_item?_of_append hitem
    rw [ensureDirectory]
    simp only [hnext, if_true]
    exact ih hitem

theorem isBlocked_of_isSome (hd : d.WellFormed) (hitem : (d.item? place).isSome = true) :
    d.isBlocked place = false := by
  rw [isBlocked, List.any_eq_false]
  intro n hn hfile
  have hdrop : place.drop n ≠ [] := by
    rw [ne_eq, List.drop_eq_nil_iff, Nat.not_le]
    exact List.mem_range.mp hn
  rw [← List.take_append_drop n place] at hitem
  have hdirectory := hd.isDirectory_of_append hdrop hitem
  rw [not_isDirectory_of_isFile hfile] at hdirectory
  cases hdirectory

/-- A file is written over another at once. -/
theorem write_of_isFile (hd : d.WellFormed) (hfile : d.isFile place = true) (content : Bytes) :
    d.write place content = .ok (d.put place (.file content)) := by
  obtain ⟨before, hbefore⟩ := hd.mem_of_isFile hfile
  have hparent := isSome_item?_of_isDirectory (hd.proper _ hbefore).2
  have hkept : d.ensureDirectory [] place.dropLast = d := hd.ensureDirectory_eq hparent
  rw [write, hd.isBlocked_of_isSome (isSome_item?_of_isFile hfile),
    not_isDirectory_of_isFile hfile, hkept]
  rfl

end WellFormed

/-- The tree with new contents written over the files at the given places, one after another. -/
def writeFiles (d : Disk) (content : Location → Bytes) : List Location → Except OpenError Disk
  | [] => .ok d
  | p :: places => do
    let d ← d.write p (content p)
    d.writeFiles content places

/-- Files can be written over, which changes what they hold and nothing else. -/
theorem WellFormed.exists_writeFiles (hd : d.WellFormed) (content : Location → Bytes)
    {places : List Location} (hfiles : ∀ p ∈ places, d.isFile p = true) :
    ∃ d', d.writeFiles content places = .ok d' ∧ d'.WellFormed ∧ SameShape d' d ∧
      ∀ p, d'.content? p = if p ∈ places then some (content p) else d.content? p := by
  induction places generalizing d with
  | nil => exact ⟨d, rfl, hd, fun _ => rfl, fun p => (if_neg List.not_mem_nil).symm⟩
  | cons place places ih =>
    obtain ⟨hplace, hplaces⟩ := List.forall_mem_cons.mp hfiles
    have hshape := hd.sameShape_put hplace (content place)
    obtain ⟨d', hwrite, hd', hshape', hcontent⟩ := ih (hd.put_file hplace (content place))
      fun p hp => hshape.isFile_eq.trans (hplaces p hp)
    refine ⟨d', ?_, hd', fun p => (hshape' p).trans (hshape p), fun p => ?_⟩
    · rw [writeFiles, hd.write_of_isFile hplace]
      exact hwrite
    · rw [hcontent, hd.content?_put hplace]
      by_cases hp : p ∈ places
      · rw [if_pos hp, if_pos (List.mem_cons_of_mem place hp)]
      · rw [if_neg hp]
        by_cases heq : p = place
        · rw [if_pos heq, heq, if_pos List.mem_cons_self]
        · rw [if_neg heq, if_neg fun h => (List.mem_cons.mp h).elim heq hp]

/-! ### Trees without a file -/

theorem lookup_filter {items : List (Location × Item)} {place p : Location} :
    (items.filter (·.1 ≠ place)).lookup p = if p = place then none else items.lookup p := by
  induction items with
  | nil => simp
  | cons x items ih =>
    obtain ⟨q, item⟩ := x
    by_cases hq : q = place
    · subst hq
      rw [List.filter_cons_of_neg (by simp), ih, List.lookup_cons]
      by_cases hp : p = q
      · rw [if_pos hp, if_pos hp]
      · have hne : (p == q) = false := by simpa using hp
        rw [if_neg hp, if_neg hp, hne]
    · rw [List.filter_cons_of_pos (by simpa using hq), List.lookup_cons, List.lookup_cons, ih]
      by_cases hp : p = q
      · subst hp
        simp [hq]
      · have hne : (p == q) = false := by simpa using hp
        simp only [hne]

theorem meetsLongName_iff {d : Disk} {cwd : Location} {path : Path} :
    d.meetsLongName cwd path = true ↔ d.find cwd path = .error .nameTooLong := by
  rw [meetsLongName]
  split
  · next h => exact iff_of_true rfl h
  · next h => exact iff_of_false Bool.false_ne_true h

/-- The tree `d'` is the tree `d` without the file at a location. -/
structure Without (d' d : Disk) (place : Location) : Prop where
  isFile : d.isFile place = true
  item? : ∀ p, d'.item? p = if p = place then none else d.item? p

theorem exists_remove {d : Disk} {place : Location} (h : d.isFile place = true) :
    ∃ d', d.remove place = .ok d' ∧ d'.Without d place := by
  obtain ⟨content, hitem⟩ := isFile_iff.mp h
  refine ⟨⟨d.items.filter (·.1 ≠ place)⟩, by rw [remove, hitem], h, fun p => ?_⟩
  by_cases hp : p = []
  · rw [hp, if_neg (Ne.symm (ne_nil_of_isFile h))]
    rfl
  · rw [item?_of_ne_nil _ hp, item?_of_ne_nil _ hp, lookup_filter]

namespace Without

variable {d d' : Disk} {place p : Location} {names : List Text} (h : d'.Without d place)

include h

theorem item?_of_ne (hp : p ≠ place) : d'.item? p = d.item? p := by
  rw [h.item?, if_neg hp]

theorem content?_eq_none : d'.content? place = none := by
  rw [content?, h.item?, if_pos rfl]

/-- A file has nothing below it, so that a name which is too long is found out elsewhere. -/
theorem walk_eq_nameTooLong_iff :
    d'.walk p names = .error .nameTooLong ↔ d.walk p names = .error .nameTooLong := by
  induction names generalizing p with
  | nil =>
    rw [walk, walk]
    constructor
    · intro hwalk
      split at hwalk
      · cases hwalk
      · cases hwalk
    · intro hwalk
      split at hwalk
      · cases hwalk
      · cases hwalk
  | cons name names ih =>
    by_cases hp : p = place
    · obtain ⟨content, hitem⟩ := isFile_iff.mp h.isFile
      rw [walk, walk, hp, h.item?, if_pos rfl, hitem]
      simp
    · rw [walk, walk, h.item?_of_ne hp]
      rcases d.item? p with _ | _ | content
      · rfl
      · dsimp only
        split
        · rfl
        · exact ih
      · rfl

theorem meetsLongName_eq (cwd : Location) (path : Path) :
    d'.meetsLongName cwd path = d.meetsLongName cwd path := by
  rw [Bool.eq_iff_iff, meetsLongName_iff, meetsLongName_iff, find, find]
  split
  · rfl
  · exact h.walk_eq_nameTooLong_iff

end Without

end Disk

end Gloss
