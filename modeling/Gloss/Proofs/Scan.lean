import Mathlib.Data.List.Basic
import Gloss.Note.Scan
import Gloss.Proofs.Text

/-! The scan for markers, piece by piece: what a marker is, where its value stops, and which
markers stand in a text that is put together from others. -/

namespace Gloss

/-! ### Markers -/

/-- A text begins with a marker exactly if it begins with a key between brackets. -/
theorem marker?_eq_some_iff {t key rest : Text} :
    marker? t = some (key, rest) ↔
      t = opening :: (key ++ closing :: rest) ∧ key ≠ [] ∧ closing ∉ key := by
  refine ⟨fun h => by simpa using eq_of_marker? h, ?_⟩
  rintro ⟨rfl, hne, hc⟩
  obtain ⟨k, ks, rfl⟩ := List.exists_cons_of_ne_nil hne
  have htake : ((k :: ks) ++ closing :: rest).takeWhile (· ≠ closing) = k :: ks := by
    rw [Text.takeWhile_ne_append hc]
    simp
  have hdrop : ((k :: ks) ++ closing :: rest).dropWhile (· ≠ closing) = closing :: rest := by
    rw [Text.dropWhile_ne_append hc]
    simp
  simp only [marker?, if_true, htake, hdrop]

/-- Every opening bracket of the text has a closing bracket somewhere after it. -/
def Closed (t : Text) : Prop :=
  ∀ before after, t = before ++ opening :: after → closing ∈ after

theorem closed_nil : Closed [] := by
  intro before after h
  simp at h

theorem closed_cons_iff {c : Char} {r : Text} :
    Closed (c :: r) ↔ (c = opening → closing ∈ r) ∧ Closed r := by
  constructor
  · intro h
    refine ⟨fun hc => h [] r (by rw [hc]; rfl), ?_⟩
    rintro before after rfl
    exact h (c :: before) after rfl
  · rintro ⟨hhead, htail⟩ before after heq
    cases before with
    | nil =>
      obtain ⟨rfl, rfl⟩ := List.cons.inj heq
      exact hhead rfl
    | cons d before => exact htail before after (List.cons.inj heq).2

instance decidableClosed : (t : Text) → Decidable (Closed t)
  | [] => .isTrue closed_nil
  | _ :: r =>
    have := decidableClosed r
    decidable_of_iff _ closed_cons_iff.symm

theorem Closed.append {t s : Text} (ht : Closed t) (hs : Closed s) : Closed (t ++ s) := by
  induction t with
  | nil => exact hs
  | cons c r ih =>
    obtain ⟨hhead, htail⟩ := closed_cons_iff.mp ht
    exact closed_cons_iff.mpr ⟨fun hc => List.mem_append_left s (hhead hc), ih htail⟩

theorem Closed.of_suffix {s t : Text} (h : Closed t) (hs : s <:+ t) : Closed s := by
  obtain ⟨front, rfl⟩ := hs
  rintro before after rfl
  exact h (front ++ before) after (by simp)

/-- What is put after a closed text neither makes nor changes a marker at its start. -/
theorem marker?_append {t : Text} (h : Closed t) (hne : t ≠ []) (s : Text) :
    marker? (t ++ s) = (marker? t).map fun m => (m.1, m.2 ++ s) := by
  cases hm : marker? t with
  | some m =>
    obtain ⟨rfl, hk, hc⟩ := marker?_eq_some_iff.mp hm
    exact marker?_eq_some_iff.mpr ⟨by simp, hk, hc⟩
  | none =>
    cases hm' : marker? (t ++ s) with
    | none => rfl
    | some m =>
      obtain ⟨heq, hk, hc⟩ := marker?_eq_some_iff.mp hm'
      obtain ⟨c, r, rfl⟩ := List.exists_cons_of_ne_nil hne
      rw [List.cons_append, List.cons.injEq] at heq
      obtain ⟨rfl, heq⟩ := heq
      -- The bracket is closed within the text, so its key ends there.
      obtain ⟨a, b, rfl, ha⟩ := List.eq_append_cons_of_mem (h [] r rfl)
      have hane : a ≠ [] := by
        rintro rfl
        obtain ⟨k, ks, hks⟩ := List.exists_cons_of_ne_nil hk
        rw [hks, List.nil_append, List.cons_append, List.cons_append, List.cons.injEq] at heq
        exact hc (by rw [hks, heq.1]; exact List.mem_cons_self)
      rw [marker?_eq_some_iff.mpr ⟨rfl, hane, ha⟩] at hm
      cases hm

/-! ### Values -/

/-- A line feed that an opening bracket follows: what ends a value. -/
def valueBreak : Text := ['\n', opening]

theorem valueBreak_prefix_iff {c : Char} {r : Text} :
    valueBreak <+: c :: r ↔ c = '\n' ∧ r.head? = some opening := by
  rw [valueBreak, List.cons_prefix_cons]
  cases r with
  | nil => simp
  | cons d q => simp [List.cons_prefix_cons, eq_comm]

theorem valueBreak_infix_of_getElem? {t : Text} {n : Nat} (hfeed : t[n]? = some '\n')
    (hopen : t[n + 1]? = some opening) : valueBreak <:+: t := by
  refine ⟨t.take n, t.drop (n + 2), ?_⟩
  conv_rhs => rw [Text.eq_take_append_cons hfeed, Text.drop_eq_cons hopen]
  simp [valueBreak]

theorem splitValue_of_break {r : Text} (h : r.head? = some opening) :
    splitValue ('\n' :: r) = ([], '\n' :: r) := by
  simp [splitValue, h]

theorem splitValue_cons {c : Char} {r : Text} (h : ¬(c = '\n' ∧ r.head? = some opening)) :
    splitValue (c :: r) = (c :: (splitValue r).1, (splitValue r).2) := by
  simp [splitValue, h]

theorem drop_splitValue (t : Text) : t.drop (splitValue t).1.length = (splitValue t).2 := by
  have := congrArg (List.drop (splitValue t).1.length) (splitValue_append t)
  rw [List.drop_left] at this
  exact this.symm

/-- A value does not run over a break. -/
theorem not_valueBreak_infix_splitValue (t : Text) : ¬valueBreak <:+: (splitValue t).1 := by
  induction t with
  | nil => simp [splitValue, valueBreak]
  | cons c r ih =>
    by_cases h : c = '\n' ∧ r.head? = some opening
    · obtain ⟨rfl, hr⟩ := h
      simp [splitValue_of_break hr, valueBreak]
    · rw [splitValue_cons h, List.infix_cons_iff, valueBreak_prefix_iff]
      rintro (⟨rfl, hhead⟩ | hinner)
      · refine h ⟨rfl, ?_⟩
        rw [← splitValue_append r, List.head?_append, hhead]
        rfl
      · exact ih hinner

/-- What a value leaves of a text is nothing, or begins with a break. -/
theorem splitValue_rest (t : Text) :
    (splitValue t).2 = [] ∨ ∃ r, (splitValue t).2 = '\n' :: opening :: r := by
  induction t with
  | nil => exact .inl rfl
  | cons c r ih =>
    by_cases h : c = '\n' ∧ r.head? = some opening
    · obtain ⟨rfl, hr⟩ := h
      obtain ⟨q, rfl⟩ := List.head?_eq_some_iff.mp hr
      exact .inr ⟨q, by rw [splitValue_of_break hr]⟩
    · rwa [splitValue_cons h]

theorem splitValue_of_not_infix {t : Text} (h : ¬valueBreak <:+: t) : splitValue t = (t, []) := by
  induction t with
  | nil => rfl
  | cons c r ih =>
    rw [List.infix_cons_iff, valueBreak_prefix_iff, not_or] at h
    rw [splitValue_cons h.1, ih h.2]

/-- A value in `t` stops where it would if no lines followed that begin with a bracket. -/
theorem splitValue_append_break {s : Text} (hs : s.head? = some opening) (t : Text) :
    splitValue (t ++ '\n' :: s) = ((splitValue t).1, (splitValue t).2 ++ '\n' :: s) := by
  induction t with
  | nil => exact splitValue_of_break hs
  | cons c r ih =>
    have hhead : (r ++ '\n' :: s).head? = some opening ↔ r.head? = some opening := by
      cases r with
      | nil => simp [opening]
      | cons d q => rfl
    by_cases h : c = '\n' ∧ r.head? = some opening
    · obtain ⟨rfl, hr⟩ := h
      rw [splitValue_of_break hr, List.cons_append, splitValue_of_break (hhead.mpr hr)]
    · rw [List.cons_append, splitValue_cons (by rwa [hhead]), splitValue_cons h, ih]

/-! ### The scan -/

@[simp] theorem scan_nil (here : Nat) : scan here [] = [] := by
  rw [scan]
  rfl

theorem scan_of_marker {here : Nat} {t key rest : Text} (h : marker? t = some (key, rest)) :
    scan here t = ⟨here, key, (splitValue rest).1⟩ ::
      scan (Candidate.stop ⟨here, key, (splitValue rest).1⟩) (splitValue rest).2 := by
  rw [scan]
  split
  · next key' rest' h' =>
    obtain ⟨rfl, rfl⟩ : key = key' ∧ rest = rest' := by simpa [h] using h'
    rfl
  · next h' => rw [h] at h'; cases h'

theorem scan_of_no_marker {here : Nat} {c : Char} {r : Text} (h : marker? (c :: r) = none) :
    scan here (c :: r) = scan (here + 1) r := by
  rw [scan]
  split
  · next h' => rw [h] at h'; cases h'
  · rfl

/-- `c` stands in `t` between `before` and `after`, `t` standing at the offset `here`. -/
structure Candidate.Stands (here : Nat) (t before after : Text) (c : Candidate) : Prop where
  eq : t = before ++ opening :: (c.key ++ closing :: (c.value ++ after))
  start : c.start = here + before.length
  key_ne_nil : c.key ≠ []
  not_mem_key : closing ∉ c.key
  unbroken : ¬valueBreak <:+: c.value

theorem exists_stands_of_mem_scan {here : Nat} {t : Text} {c : Candidate} (hc : c ∈ scan here t) :
    ∃ before after, c.Stands here t before after := by
  induction here, t using scan.induct with
  | case1 here t key rest hm found ih =>
    obtain ⟨rfl, hk, hclosed⟩ := marker?_eq_some_iff.mp hm
    have hrest := splitValue_append rest
    rw [scan_of_marker hm, List.mem_cons] at hc
    rcases hc with rfl | hc
    · exact ⟨[], (splitValue rest).2, by simp [hrest], rfl, hk, hclosed,
        not_valueBreak_infix_splitValue rest⟩
    · obtain ⟨before, after, hs⟩ := ih hc
      refine ⟨opening :: (key ++ closing :: ((splitValue rest).1 ++ before)), after, ?_, ?_,
        hs.key_ne_nil, hs.not_mem_key, hs.unbroken⟩
      · conv_lhs => rw [← hrest, hs.eq]
        simp
      · rw [hs.start]
        simp [found, Candidate.stop, Candidate.close]
        omega
  | case2 here => simp at hc
  | case3 here c r hm ih =>
    rw [scan_of_no_marker hm] at hc
    obtain ⟨before, after, hs⟩ := ih hc
    refine ⟨c :: before, after, ?_, ?_, hs.key_ne_nil, hs.not_mem_key, hs.unbroken⟩
    · rw [hs.eq]; rfl
    · rw [hs.start, List.length_cons]; omega

/-- A marker in a text that stands `n` characters further on. -/
def Candidate.shift (n : Nat) (c : Candidate) : Candidate :=
  { c with start := n + c.start }

theorem scan_shift (n here : Nat) (t : Text) :
    scan (n + here) t = (scan here t).map (Candidate.shift n) := by
  induction here, t using scan.induct with
  | case1 here t key rest hm found ih =>
    rw [scan_of_marker hm, scan_of_marker hm, List.map_cons, ← ih]
    congr 2
    simp [found, Candidate.stop, Candidate.close]
    omega
  | case2 here => simp
  | case3 here c r hm ih => rw [scan_of_no_marker hm, scan_of_no_marker hm, ← ih, Nat.add_assoc]

/-- The markers of a closed text and of one that begins with a bracket, on the lines below, are
those of the two. -/
theorem scan_append_break {here : Nat} {t s : Text} (ht : Closed t) (hs : s.head? = some opening) :
    scan here (t ++ '\n' :: s) = scan here t ++ scan (here + t.length + 1) s := by
  induction here, t using scan.induct with
  | case1 here t key rest hm found ih =>
    obtain ⟨hteq, -, -⟩ := marker?_eq_some_iff.mp hm
    have hrest := splitValue_append rest
    have hm' : marker? (t ++ '\n' :: s) = some (key, rest ++ '\n' :: s) := by
      rw [marker?_append ht (by simp [hteq]), hm]
      rfl
    have hsuffix : (splitValue rest).2 <:+ t :=
      ⟨opening :: (key ++ closing :: (splitValue rest).1), by simp [hteq, hrest]⟩
    rw [scan_of_marker hm, scan_of_marker hm', splitValue_append_break hs, List.cons_append,
      ih (ht.of_suffix hsuffix)]
    have hlen : found.stop + (splitValue rest).2.length = here + t.length := by
      have := congrArg List.length hrest
      simp [hteq, found, Candidate.stop, Candidate.close] at this ⊢
      omega
    rw [hlen]
  | case2 here =>
    have hm : marker? ('\n' :: s) = none := by simp [marker?, opening]
    simpa using scan_of_no_marker hm
  | case3 here c r hm ih =>
    have hm' : marker? (c :: (r ++ '\n' :: s)) = none := by
      have := marker?_append ht (by simp) ('\n' :: s)
      rwa [hm] at this
    rw [scan_of_no_marker hm, List.cons_append, scan_of_no_marker hm',
      ih (ht.of_suffix (List.suffix_cons c r))]
    congr 2
    simp
    omega

/-! ### Notes -/

theorem Candidate.entry?_eq_some_iff {source t : Text} {c : Candidate} {e : Entry} :
    c.entry? source t = some e ↔ c.key.trim ≠ [] ∧ c.value.trim ≠ [] ∧
      e = ⟨c.key.trim, c.value.trim, source, LineSpan.around t c.start⟩ := by
  rw [Candidate.entry?]
  by_cases hblank : c.key.trim = [] ∨ c.value.trim = []
  · rw [if_pos hblank]
    constructor
    · intro h
      cases h
    · rintro ⟨hk, hv, -⟩
      exact absurd hblank (not_or.mpr ⟨hk, hv⟩)
  · rw [if_neg hblank, Option.some.injEq, eq_comm]
    obtain ⟨hk, hv⟩ := not_or.mp hblank
    exact ⟨fun h => ⟨hk, hv, h⟩, fun h => h.2.2⟩

theorem source_of_mem_readNotes {source t : Text} {e : Entry} (he : e ∈ readNotes source t) :
    e.source = source := by
  obtain ⟨c, -, hce⟩ := List.mem_filterMap.mp he
  obtain ⟨-, -, rfl⟩ := Candidate.entry?_eq_some_iff.mp hce
  rfl

theorem exists_of_mem_readNotes {source t : Text} {e : Entry} (he : e ∈ readNotes source t) :
    ∃ (c : Candidate) (before after : Text), c.Stands 0 t before after ∧
      c.entry? source t = some e := by
  obtain ⟨c, hc, hce⟩ := List.mem_filterMap.mp he
  obtain ⟨before, after, hs⟩ := exists_stands_of_mem_scan hc
  exact ⟨c, before, after, hs, hce⟩

end Gloss
