import Gloss.Proofs.Writing

/-! A bracket that is left open above other notes. It is closed by the next closing bracket of the
text, so that the first note below it is read with a longer key, and so that nothing else changes
from the next line that begins with a bracket. -/

namespace Gloss

namespace Text

variable {p : Char → Bool} {c : Char}

theorem count_dropWhile (hc : p c = false) (t : Text) : (t.dropWhile p).count c = t.count c := by
  induction t with
  | nil => rfl
  | cons d r ih =>
    rw [List.dropWhile_cons]
    split
    · next hd =>
      have hne : d ≠ c := fun heq => by simp [heq, hc] at hd
      rw [ih, List.count_cons_of_ne hne]
    · rfl

/-- Trimming leaves all characters outside the trimmed class. -/
theorem count_trimBy (hc : p c = false) (t : Text) : (t.trimBy p).count c = t.count c := by
  unfold trimBy
  rw [List.count_reverse, count_dropWhile hc, List.count_reverse, count_dropWhile hc]

theorem count_opening_trim (t : Text) : t.trim.count opening = t.count opening :=
  count_trimBy (by decide) t

theorem trim_ne_nil_of_opening {t : Text} (h : opening ∈ t) : t.trim ≠ [] := by
  intro hnil
  have hcount := count_opening_trim t
  have := List.count_pos_iff.mpr h
  rw [hnil, List.count_nil] at hcount
  omega

end Text

/-! ### Keys and values -/

/-- The trimmed key and value of a marker, unless one of them is blank. -/
def noteOf (key value : Text) : List (Text × Text) :=
  if key.trim = [] ∨ value.trim = [] then [] else [(key.trim, value.trim)]

/-- The keys and the values of the notes of a text. -/
def contents (t : Text) : List (Text × Text) :=
  (scan 0 t).flatMap fun c => noteOf c.key c.value

theorem content_readNotes (source t : Text) :
    (readNotes source t).map Entry.content = contents t := by
  unfold readNotes contents
  rw [List.map_filterMap, List.filterMap_eq_flatMap_toList]
  refine congrArg (List.flatMap · (scan 0 t)) (funext fun c => ?_)
  unfold Candidate.entry? noteOf
  by_cases hblank : c.key.trim = [] ∨ c.value.trim = []
  · simp [hblank]
  · simp [hblank, Entry.content]

/-- Where a text stands makes no difference to its keys and values. -/
theorem flatMap_scan (here : Nat) (t : Text) :
    ((scan here t).flatMap fun c => noteOf c.key c.value) = contents t := by
  have hshift := scan_shift here 0 t
  rw [Nat.add_zero] at hshift
  rw [hshift, List.flatMap_map]
  rfl

@[simp] theorem contents_nil : contents [] = [] := by simp [contents]

theorem contents_of_marker {t key rest : Text} (h : marker? t = some (key, rest)) :
    contents t = noteOf key (splitValue rest).1 ++ contents (splitValue rest).2 := by
  unfold contents
  rw [scan_of_marker h, List.flatMap_cons, flatMap_scan]
  rfl

theorem contents_of_no_marker {c : Char} {r : Text} (h : marker? (c :: r) = none) :
    contents (c :: r) = contents r := by
  rw [contents, scan_of_no_marker h, flatMap_scan]

theorem marker?_eq_none_of_ne {c : Char} (h : c ≠ opening) (r : Text) : marker? (c :: r) = none := by
  simp [marker?, h]

/-- Where no bracket opens there is no note. -/
theorem contents_append {t : Text} (h : opening ∉ t) (s : Text) : contents (t ++ s) = contents s := by
  induction t with
  | nil => rfl
  | cons c r ih =>
    obtain ⟨hc, hr⟩ := not_or.mp (mt List.mem_cons.mpr h)
    rw [List.cons_append, contents_of_no_marker (marker?_eq_none_of_ne (Ne.symm hc) _), ih hr]

/-- Where no bracket closes there is no note. -/
theorem contents_of_no_closing {t : Text} (h : closing ∉ t) : contents t = [] := by
  induction t with
  | nil => exact contents_nil
  | cons c r ih =>
    have hm : marker? (c :: r) = none := by
      by_contra hsome
      obtain ⟨⟨key, rest⟩, hm⟩ := Option.ne_none_iff_exists'.mp hsome
      exact h (by simp [(marker?_eq_some_iff.mp hm).1])
    rw [contents_of_no_marker hm, ih fun hmem => h (List.mem_cons_of_mem c hmem)]

theorem contents_empty_pair (rest : Text) :
    contents (opening :: closing :: rest) = contents rest := by
  have hm : marker? (opening :: closing :: rest) = none := by simp [marker?]
  rw [contents_of_no_marker hm,
    contents_of_no_marker (marker?_eq_none_of_ne (by decide) rest)]

/-! ### Open brackets -/

theorem closing_ne_feed : closing ≠ '\n' := by decide

theorem closing_ne_opening : closing ≠ opening := by decide

section OpenBracket

variable {w key : Text}

/-- An open bracket takes the next closing bracket, with all that stands before it. -/
theorem contents_open_bracket (hw : closing ∉ w) (hkey : closing ∉ key) (rest : Text) :
    contents (opening :: (w ++ '\n' :: opening :: (key ++ closing :: rest))) =
      noteOf (w ++ '\n' :: opening :: key) (splitValue rest).1 ++
        contents (splitValue rest).2 := by
  apply contents_of_marker
  rw [marker?_eq_some_iff]
  refine ⟨by simp, by simp, ?_⟩
  simp [hw, hkey, closing_ne_feed, closing_ne_opening]

theorem contents_of_key (hne : key ≠ []) (hkey : closing ∉ key) (rest : Text) :
    contents (opening :: (key ++ closing :: rest)) =
      noteOf key (splitValue rest).1 ++ contents (splitValue rest).2 :=
  contents_of_marker (marker?_eq_some_iff.mpr ⟨rfl, hne, hkey⟩)

theorem noteOf_blank {value : Text} (h : value.trim = []) (key : Text) : noteOf key value = [] :=
  if_pos (.inr h)

/-- A note below an open bracket is not what it is without it, unless it is none at all. -/
theorem noteOf_open_bracket_ne {value : Text} (h : value.trim ≠ []) (w key : Text) :
    noteOf (w ++ '\n' :: opening :: key) value ≠ noteOf key value := by
  have hnot : ¬((w ++ '\n' :: opening :: key).trim = [] ∨ value.trim = []) :=
    not_or.mpr ⟨Text.trim_ne_nil_of_opening (by simp), h⟩
  rw [noteOf, if_neg hnot, noteOf]
  split
  · exact List.cons_ne_nil _ _
  · -- The longer key has one bracket more, and trimming takes none away.
    intro heq
    have htrim : (w ++ '\n' :: opening :: key).trim = key.trim :=
      (Prod.mk.inj (List.cons.inj heq).1).1
    have hcount := congrArg (List.count opening) htrim
    rw [Text.count_opening_trim, Text.count_opening_trim, List.count_append,
      List.count_cons_of_ne (by decide), List.count_cons_self] at hcount
    omega

end OpenBracket

/-- What a line `u` that opens a bracket and does not close it does to the notes of the text `t` below
it, which begins with a bracket. If `t` has no closing bracket, neither text has notes. Otherwise the
first closing bracket of `t` ends the open one, and the note that ends its value there has all that
stands before as its key. The notes below that value stay as they are, and all notes do if that
value is blank. If it is not, and there is something between the first brackets of `t`, the notes
differ. -/
theorem notes_below_open_bracket {u t : Text} (hu : u.head? = some opening) (hclosing : closing ∉ u)
    (ht : t.head? = some opening) (source : Text) :
    let content (x : Text) := (readNotes source x).map Entry.content
    (closing ∉ t → content (u ++ '\n' :: t) = [] ∧ content t = []) ∧
    ∀ key rest, t = opening :: (key ++ closing :: rest) → closing ∉ key →
      let value := (splitValue rest).1
      let below := (splitValue rest).2
      content (u ++ '\n' :: t) = noteOf (u.tail ++ '\n' :: opening :: key) value ++ content below ∧
      content t = (if key = [] then content rest else noteOf key value ++ content below) ∧
      (value.trim = [] → content (u ++ '\n' :: t) = content t) ∧
      (key ≠ [] → content (u ++ '\n' :: t) = content t → value.trim = []) := by
  obtain ⟨w, rfl⟩ := List.head?_eq_some_iff.mp hu
  have hw : closing ∉ w := fun h => hclosing (List.mem_cons_of_mem _ h)
  intro content
  simp only [content, content_readNotes, List.cons_append, List.tail_cons]
  refine ⟨fun hnone => ⟨?_, contents_of_no_closing hnone⟩, fun key rest heq hkey => ?_⟩
  · apply contents_of_no_closing
    simp [hw, hnone, closing_ne_feed, closing_ne_opening]
  subst heq
  have hvalue := splitValue_append rest
  generalize hv : (splitValue rest).1 = value at hvalue ⊢
  generalize hb : (splitValue rest).2 = below at hvalue ⊢
  have hopen := contents_open_bracket hw hkey rest
  rw [hv, hb] at hopen
  have hself : contents (opening :: (key ++ closing :: rest)) =
      if key = [] then contents rest else noteOf key value ++ contents below := by
    split
    · next hnil => rw [hnil, List.nil_append, contents_empty_pair]
    · next hne => rw [contents_of_key hne hkey rest, hv, hb]
  refine ⟨hopen, hself, fun hblank => ?_, fun hne hsame => ?_⟩
  · have hno : opening ∉ value := fun h => Text.trim_ne_nil_of_opening h hblank
    have hrest : contents rest = contents below := by
      rw [← hvalue]
      exact contents_append hno below
    rw [hopen, hself, noteOf_blank hblank, noteOf_blank hblank, hrest]
    simp
  · by_contra hblank
    rw [hopen, hself, if_neg hne] at hsame
    exact noteOf_open_bracket_ne hblank w key (List.append_cancel_right hsame)

/-- One note takes the open bracket above it into its key, a blank one does not, and the note below
them stays. -/
theorem notes_below_open_bracket_two :
    let u : Text := [opening, 'a']
    let below : Text := ['\n', opening, 'l', closing, 'x']
    let t : Text := opening :: (['k'] ++ closing :: ('v' :: below))
    let blank : Text := opening :: (['k'] ++ closing :: below)
    let content (x : Text) := (readNotes [] x).map Entry.content
    u.head? = some opening ∧ closing ∉ u ∧ t.head? = some opening ∧ blank.head? = some opening ∧
      closing ∉ ['k'] ∧ (splitValue below).1.trim = [] ∧
      content (u ++ '\n' :: t) = (['a', '\n', opening, 'k'], ['v']) :: content below ∧
      content t = (['k'], ['v']) :: content below ∧
      content (u ++ '\n' :: blank) = content blank := by
  intro u below t blank content
  have hu : closing ∉ u := by decide
  have hk : closing ∉ ['k'] := by decide
  obtain ⟨hopen, hself, -⟩ :=
    (notes_below_open_bracket (u := u) (t := t) rfl hu rfl []).2 ['k'] _ rfl hk
  obtain ⟨-, -, hsame, -⟩ :=
    (notes_below_open_bracket (u := u) (t := blank) rfl hu rfl []).2 ['k'] _ rfl hk
  exact ⟨rfl, hu, rfl, rfl, hk, rfl, hopen, hself, hsame rfl⟩

/-- An open bracket above a note with a value changes the key of that note. -/
theorem note_changed_by_open_bracket :
    ¬∀ u t source : Text, u.head? = some opening → closing ∉ u → '\n' ∉ u →
      t.head? = some opening →
        (readNotes source (u ++ '\n' :: t)).map Entry.content =
          (readNotes source t).map Entry.content := by
  intro h
  have hsame := h [opening, 'a'] [opening, 'k', closing, 'v'] [] rfl (by decide) (by decide) rfl
  have hkey : closing ∉ ['k'] := by decide
  have hopen := contents_open_bracket (w := ['a']) (by decide) hkey ['v']
  have hself := contents_of_key (List.cons_ne_nil 'k' []) hkey ['v']
  rw [content_readNotes, content_readNotes] at hsame
  have heq := (hopen.symm.trans hsame).trans hself
  exact noteOf_open_bracket_ne (by decide) ['a'] ['k'] (List.append_cancel_right heq)

end Gloss
