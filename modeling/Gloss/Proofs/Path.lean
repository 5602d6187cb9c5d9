import Mathlib.Data.List.Basic
import Gloss.Path
import Gloss.Proofs.Text

/-! Paths as texts: the names of a path are read back from its text, so that the texts of different
locations differ, and the order of texts is strict on different ones. -/

namespace Gloss

theorem isName_iff {name : Text} : IsName name ↔
    name ≠ [] ∧ name ≠ ['.'] ∧ name ≠ parentName ∧ '/' ∉ name ∧ '\x00' ∉ name :=
  ⟨fun h => ⟨h.ne_nil, h.ne_here, h.ne_parent, h.no_slash, h.no_nul⟩,
    fun ⟨h1, h2, h3, h4, h5⟩ => ⟨h1, h2, h3, h4, h5⟩⟩

instance (name : Text) : Decidable (IsName name) :=
  decidable_of_iff _ isName_iff.symm

namespace Text

/-! ### Order -/

/-- Of two different texts, the one that does not come after the other comes before it by the code
points of their characters. -/
theorem lt_of_le_of_ne {s t : Text} (hle : le s t = true) (hne : s ≠ t) : s < t := by
  induction s generalizing t with
  | nil =>
    cases t with
    | nil => exact absurd rfl hne
    | cons d q => exact List.Lex.nil
  | cons c r ih =>
    cases t with
    | nil => cases hle
    | cons d q =>
      simp only [le, Bool.or_eq_true, decide_eq_true_eq, Bool.and_eq_true] at hle
      obtain hlt | ⟨rfl, hle⟩ := hle
      · exact List.Lex.rel hlt
      · exact List.Lex.cons (ih hle fun heq => hne (congrArg _ heq))

end Text

namespace Path

/-- The names of a path are such as its text gives: they are not empty, not `.`, and without a
slash. -/
def Written (p : Path) : Prop :=
  ∀ name ∈ p.names, name ≠ [] ∧ name ≠ ['.'] ∧ '/' ∉ name

instance (p : Path) : Decidable p.Written :=
  inferInstanceAs (Decidable (∀ name ∈ p.names, name ≠ [] ∧ name ≠ ['.'] ∧ '/' ∉ name))

theorem written_ofText (t : Text) : (ofText t).Written := by
  intro name hname
  obtain ⟨hpiece, hname⟩ := List.mem_filter.mp hname
  obtain ⟨hne, hhere⟩ := of_decide_eq_true hname
  exact ⟨hne, hhere, Text.not_mem_of_mem_pieces hpiece⟩

theorem written_of_isName {a : Anchor} {names : List Text} (h : ∀ name ∈ names, IsName name) :
    Written ⟨a, names⟩ :=
  fun name hname => ⟨(h name hname).ne_nil, (h name hname).ne_here, (h name hname).no_slash⟩

/-- The names of a path are read back from its text. -/
theorem names_ofText_toText {p : Path} (h : p.Written) :
    (ofText p.toText).names = p.names := by
  have hjoin : (Text.pieces '/' (Text.join ['/'] p.names)).filter
      (fun name => name ≠ [] ∧ name ≠ ['.']) = p.names := by
    by_cases hnil : p.names = []
    · rw [hnil]
      rfl
    · rw [Text.pieces_join hnil fun name hname => (h name hname).2.2, List.filter_eq_self]
      intro name hname
      obtain ⟨hne, hhere, -⟩ := h name hname
      simpa using ⟨hne, hhere⟩
  by_cases hhere : p.anchor = .relative ∧ p.names = []
  · rw [toText, if_pos hhere, hhere.2]
    rfl
  · rw [toText, if_neg hhere, ofText]
    -- The slashes of the anchor come to pieces that are empty.
    cases p.anchor with
    | relative => exact hjoin
    | slash | doubleSlash => simpa [Anchor.toText, Text.pieces] using hjoin

theorem toText_inj {a : Anchor} {names names' : List Text} (h : Written ⟨a, names⟩)
    (h' : Written ⟨a, names'⟩) (heq : toText ⟨a, names⟩ = toText ⟨a, names'⟩) : names = names' := by
  have hread := names_ofText_toText h
  rw [heq, names_ofText_toText h'] at hread
  exact hread.symm

theorem hasNul_ofText {t : Text} (h : '\x00' ∉ t) : (ofText t).hasNul = false := by
  rw [hasNul, List.any_eq_false]
  intro name hname hnul
  have hpiece := (List.mem_filter.mp hname).1
  exact h (Text.mem_of_mem_pieces hpiece (List.contains_iff_mem.mp hnul))

theorem head?_toText {names : List Text} (h : Written ⟨.relative, names⟩) :
    (toText ⟨.relative, names⟩).head? ≠ some '/' := by
  cases names with
  | nil => decide
  | cons name names =>
    obtain ⟨hne, -, hslash⟩ := h name List.mem_cons_self
    rw [toText, if_neg fun hnil => List.cons_ne_nil _ _ hnil.2]
    show (Text.join ['/'] (name :: names)).head? ≠ some '/'
    rw [Text.head?_join hne]
    exact fun hhead => hslash (List.mem_of_mem_head? hhead)

theorem anchor_ofText_of_head? {t : Text} (h : t.head? ≠ some '/') : (ofText t).anchor = .relative := by
  show Anchor.ofText t = .relative
  unfold Anchor.ofText
  split <;> simp_all

/-- A relative path is read back from its text. -/
theorem ofText_toText_relative {names : List Text} (h : Written ⟨.relative, names⟩) :
    ofText (toText ⟨.relative, names⟩) = ⟨.relative, names⟩ :=
  (Path.mk.injEq ..).mpr ⟨anchor_ofText_of_head? (head?_toText h), names_ofText_toText h⟩

end Path

/-- Names of which none is that of a parent directory lead on. -/
theorem Location.foldl_step {place : Location} {names : List Text}
    (h : ∀ name ∈ names, name ≠ parentName) : names.foldl step place = place ++ names := by
  induction names generalizing place with
  | nil => exact (List.append_nil place).symm
  | cons name names ih =>
    obtain ⟨hname, hnames⟩ := List.forall_mem_cons.mp h
    rw [List.foldl_cons, ih hnames, step, if_neg hname, List.append_assoc, List.singleton_append]

theorem Location.mem_of_mem_foldl_step {place : Location} {names : List Text} {name : Text}
    (h : name ∈ names.foldl step place) : name ∈ place ∨ name ∈ names ∧ name ≠ parentName := by
  induction names generalizing place with
  | nil => exact .inl h
  | cons first names ih =>
    rw [List.foldl_cons] at h
    obtain h | ⟨hmem, hne⟩ := ih h
    · rw [step] at h
      split at h
      · exact .inl (List.dropLast_subset place h)
      · next hfirst =>
        obtain h | h := List.mem_append.mp h
        · exact .inl h
        · obtain rfl := List.mem_singleton.mp h
          exact .inr ⟨List.mem_cons_self, hfirst⟩
    · exact .inr ⟨List.mem_cons_of_mem first hmem, hne⟩

namespace Path

/-- A joined path leads where its second part leads as seen from the end of the first. -/
theorem resolve_join (p q : Path) (cwd : Location) :
    (p.join q).resolve cwd = q.resolve (p.resolve cwd) := by
  rw [join]
  split
  · next habsolute => rw [resolve, resolve, if_pos habsolute, if_pos habsolute]
  · next hrelative =>
    rw [resolve, List.foldl_append, resolve, if_neg hrelative]
    rfl

theorem resolve_ofLocation {place : Location} (h : ∀ name ∈ place, name ≠ parentName)
    (cwd : Location) : (ofLocation place).resolve cwd = place :=
  Location.foldl_step h

theorem Written.join {p q : Path} (hp : p.Written) (hq : q.Written) : (p.join q).Written := by
  rw [Path.join]
  split
  · exact hq
  · intro name hname
    obtain hname | hname := List.mem_append.mp hname
    · exact hp name hname
    · exact hq name hname

theorem not_mem_of_hasNul {p : Path} (h : p.hasNul = false) :
    ∀ name ∈ p.names, '\x00' ∉ name := by
  simpa [hasNul] using h

/-- A path without U+0000 leads to a location from one. -/
theorem Written.isName_resolve {p : Path} (hp : p.Written) (hnul : p.hasNul = false)
    {cwd : Location} (hcwd : ∀ name ∈ cwd, IsName name) :
    ∀ name ∈ p.resolve cwd, IsName name := by
  intro name hname
  obtain hname | ⟨hname, hparent⟩ := Location.mem_of_mem_foldl_step hname
  · split at hname
    · cases hname
    · exact hcwd name hname
  · obtain ⟨hne, hhere, hslash⟩ := hp name hname
    exact ⟨hne, hhere, hparent, hslash, not_mem_of_hasNul hnul name hname⟩

end Path

theorem Path.isAbsolute_ofText_toText (place : Location) :
    (Path.ofText place.toText).isAbsolute = true := by
  have hanchor : Anchor.ofText place.toText ≠ .relative := by
    rw [Location.toText]
    unfold Anchor.ofText
    split <;> simp_all
  simpa [Path.isAbsolute, Path.ofText] using hanchor

/-- A location is read back from its text, wherever one stands. -/
theorem Path.resolve_ofText_toText {place : Location} (h : ∀ name ∈ place, IsName name)
    (cwd : Location) : (Path.ofText place.toText).resolve cwd = place := by
  have hnames := Path.names_ofText_toText (p := .ofLocation place) (Path.written_of_isName h)
  rw [Path.resolve, Path.isAbsolute_ofText_toText, if_pos rfl, show place.toText =
    (Path.ofLocation place).toText from rfl, hnames]
  exact Location.foldl_step fun name hname => (h name hname).ne_parent

theorem Location.below?_eq_some_iff {root place : Location} {names : List Text} :
    root.below? place = some names ↔ root ++ names = place := by
  rw [below?, Option.ite_none_right_eq_some, List.isPrefixOf_iff_prefix, Option.some.injEq]
  constructor
  · rintro ⟨⟨rest, rfl⟩, rfl⟩
    rw [List.drop_left]
  · rintro rfl
    exact ⟨List.prefix_append root names, List.drop_left⟩

/-- What lies below the root is shown by the names that lead there. -/
theorem shownSource_of_append {cwd : Location} {root : Path} {source : Text} {names : List Text}
    (hsource : (Path.ofText source).hasNul = false) (hroot : root.hasNul = false)
    (h : root.resolve cwd ++ names = (Path.ofText source).resolve cwd) :
    shownSource cwd (some root) source = Path.toText ⟨.relative, names⟩ := by
  simp only [shownSource, hsource, hroot, Bool.or_self, Bool.false_eq_true, if_false,
    Location.below?_eq_some_iff.mpr h]

theorem shownSource_append {cwd place names : Location} {root : Path}
    (hnul : root.hasNul = false) (hroot : root.resolve cwd = place)
    (h : ∀ name ∈ place ++ names, IsName name) :
    shownSource cwd (some root) (Location.toText (place ++ names)) =
      Path.toText ⟨.relative, names⟩ := by
  have hread : (Path.ofText (Location.toText (place ++ names))).names = place ++ names :=
    Path.names_ofText_toText (p := .ofLocation (place ++ names)) (Path.written_of_isName h)
  have hclear : (Path.ofText (Location.toText (place ++ names))).hasNul = false := by
    rw [Path.hasNul, hread, List.any_eq_false]
    intro name hname
    simpa using (h name hname).no_nul
  apply shownSource_of_append hclear hnul
  rw [hroot, Path.resolve_ofText_toText h]

/-- Different locations are written differently. -/
theorem Location.toText_inj {place place' : Location} (h : ∀ name ∈ place, IsName name)
    (h' : ∀ name ∈ place', IsName name) (heq : place.toText = place'.toText) : place = place' :=
  Path.toText_inj (a := .slash) (Path.written_of_isName h) (Path.written_of_isName h') heq

end Gloss
