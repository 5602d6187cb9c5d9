import Mathlib.Data.List.Chain
import Gloss.Proofs.Scan

/-! The markers that a scan selects, described by their offsets alone. The description leaves one
selection for each text, and the notes of a text are the selected markers that are not blank. -/

namespace Gloss

/-- An opening bracket stands at `start` and the first closing bracket after it at `close`, with
something between the two. -/
structure MarkerAt (t : Text) (start close : Nat) : Prop where
  opens : t[start]? = some opening
  closes : t[close]? = some closing
  first : ∀ i, start < i → i < close → t[i]? ≠ some closing
  inner : start + 1 < close

/-- A value can stop at `i`: the text ends there, or a line feed that an opening bracket
follows. -/
def StopAt (t : Text) (i : Nat) : Prop :=
  i = t.length ∨ t[i]? = some '\n' ∧ t[i + 1]? = some opening

/-- `stop` is the least offset, from `i` on, at which a value can stop. -/
structure FirstStop (t : Text) (i stop : Nat) : Prop where
  le : i ≤ stop
  stops : StopAt t stop
  least : ∀ j, i ≤ j → j < stop → ¬StopAt t j

/-- The offsets of a marker: of its two brackets, and of the end of its value. -/
structure Extent where
  start : Nat
  close : Nat
  stop : Nat
  deriving DecidableEq, Repr

/-- `es` are markers of `t` from the offset `here` on, each with its value and none inside another,
and every opening bracket outside of them begins no marker. -/
structure Selection (t : Text) (here : Nat) (es : List Extent) : Prop where
  from_here : ∀ e ∈ es, here ≤ e.start
  marker : ∀ e ∈ es, MarkerAt t e.start e.close
  stop : ∀ e ∈ es, FirstStop t (e.close + 1) e.stop
  apart : es.IsChain fun a b => a.stop ≤ b.start
  outside : ∀ s, here ≤ s → t[s]? = some opening →
    (∀ e ∈ es, ¬(e.start ≤ s ∧ s < e.stop)) → ∀ k, ¬MarkerAt t s k

/-! ### Offsets and pieces -/

theorem MarkerAt.close_lt {t : Text} {s k : Nat} (h : MarkerAt t s k) : k < t.length :=
  (List.getElem?_eq_some_iff.mp h.closes).1

theorem StopAt.le_length {t : Text} {i : Nat} (h : StopAt t i) : i ≤ t.length := by
  rcases h with rfl | ⟨hfeed, -⟩
  · exact Nat.le_refl _
  · obtain ⟨hlt, -⟩ := List.getElem?_eq_some_iff.mp hfeed
    omega

/-- The text from a marker on is read as that marker. -/
theorem MarkerAt.exists_marker? {t : Text} {s k : Nat} (h : MarkerAt t s k) :
    ∃ key rest, marker? (t.drop s) = some (key, rest) ∧ k = s + 1 + key.length := by
  have hinner := h.inner
  have hclose : (t.drop (s + 1))[k - (s + 1)]? = some closing := by
    rw [List.getElem?_drop, Nat.add_sub_cancel' (by omega)]
    exact h.closes
  have hlen : ((t.drop (s + 1)).take (k - (s + 1))).length = k - (s + 1) := by
    have hlt := h.close_lt
    rw [List.length_take, List.length_drop]
    omega
  refine ⟨(t.drop (s + 1)).take (k - (s + 1)), (t.drop (s + 1)).drop (k - (s + 1) + 1),
    marker?_eq_some_iff.mpr ⟨?_, ?_, ?_⟩, by omega⟩
  · rw [← Text.eq_take_append_cons hclose, Text.drop_eq_cons h.opens]
  · apply List.ne_nil_of_length_pos
    omega
  · intro hmem
    obtain ⟨j, hj⟩ := List.mem_iff_getElem?.mp hmem
    obtain ⟨hjlt, -⟩ := List.getElem?_eq_some_iff.mp hj
    rw [List.getElem?_take_of_lt (by omega), List.getElem?_drop] at hj
    exact h.first (s + 1 + j) (by omega) (by omega) hj

theorem markerAt_of_marker? {t key rest : Text} {s : Nat}
    (hm : marker? (t.drop s) = some (key, rest)) : MarkerAt t s (s + 1 + key.length) := by
  obtain ⟨hdrop, hne, hc⟩ := marker?_eq_some_iff.mp hm
  have hget : ∀ i, t[s + i]? = (opening :: (key ++ closing :: rest))[i]? := by
    intro i
    rw [← hdrop, List.getElem?_drop]
  have hpos := List.length_pos_of_ne_nil hne
  refine ⟨hget 0, ?_, ?_, by omega⟩
  · rw [Nat.add_assoc, hget, Nat.add_comm, List.getElem?_cons_succ,
      List.getElem?_append_right (Nat.le_refl _), Nat.sub_self]
    rfl
  · intro i hsi hik hi
    obtain ⟨j, rfl⟩ : ∃ j, i = s + (j + 1) := ⟨i - s - 1, by omega⟩
    rw [hget, List.getElem?_cons_succ, List.getElem?_append_left (by omega)] at hi
    exact hc (List.mem_of_getElem? hi)

theorem drop_of_marker? {t key rest : Text} {s : Nat}
    (hm : marker? (t.drop s) = some (key, rest)) : t.drop (s + 1 + key.length + 1) = rest := by
  obtain ⟨hdrop, -, -⟩ := marker?_eq_some_iff.mp hm
  rw [show s + 1 + key.length + 1 = s + (key.length + 1 + 1) by omega, ← List.drop_drop, hdrop,
    List.drop_succ_cons, ← List.drop_drop, List.drop_left]
  rfl

theorem MarkerAt.close_unique {t : Text} {s k k' : Nat} (h : MarkerAt t s k)
    (h' : MarkerAt t s k') : k = k' := by
  have hi := h.inner
  have hi' := h'.inner
  rcases Nat.lt_trichotomy k k' with hlt | heq | hgt
  · exact absurd h.closes (h'.first k (by omega) hlt)
  · exact heq
  · exact absurd h'.closes (h.first k' (by omega) hgt)

theorem FirstStop.unique {t : Text} {i a b : Nat} (ha : FirstStop t i a) (hb : FirstStop t i b) :
    a = b := by
  rcases Nat.lt_trichotomy a b with hlt | heq | hgt
  · exact absurd ha.stops (hb.least a ha.le hlt)
  · exact heq
  · exact absurd hb.stops (ha.least b hb.le hgt)

/-- A value stops at the first offset where it can. -/
theorem firstStop_splitValue {t : Text} {i : Nat} (hi : i ≤ t.length) :
    FirstStop t i (i + (splitValue (t.drop i)).1.length) := by
  have hsplit := splitValue_append (t.drop i)
  have hbreak := not_valueBreak_infix_splitValue (t.drop i)
  have hrest := splitValue_rest (t.drop i)
  generalize (splitValue (t.drop i)).1 = v at hsplit hbreak ⊢
  generalize (splitValue (t.drop i)).2 = w at hsplit hrest
  have hlen : t.length = i + (v.length + w.length) := by
    have := congrArg List.length hsplit
    simp only [List.length_append, List.length_drop] at this
    omega
  have hget : ∀ n, t[i + n]? = (v ++ w)[n]? := by
    intro n
    rw [hsplit, List.getElem?_drop]
  refine ⟨Nat.le_add_right _ _, ?_, ?_⟩
  · rcases hrest with rfl | ⟨r, rfl⟩
    · left
      simpa using hlen.symm
    · right
      rw [Nat.add_assoc, hget, hget]
      simp
  · intro j hij hj hstop
    obtain ⟨n, rfl⟩ : ∃ n, j = i + n := ⟨j - i, by omega⟩
    rcases hstop with hend | ⟨hfeed, hopen⟩
    · omega
    rw [hget, List.getElem?_append_left (by omega)] at hfeed
    rw [Nat.add_assoc, hget] at hopen
    by_cases hlast : n + 1 < v.length
    · rw [List.getElem?_append_left hlast] at hopen
      exact hbreak (valueBreak_infix_of_getElem? hfeed hopen)
    · -- The bracket would have to be the first character after the value, which is a line feed.
      rw [List.getElem?_append_right (by omega), show n + 1 - v.length = 0 by omega] at hopen
      rcases hrest with rfl | ⟨r, rfl⟩
      · simp at hopen
      · simp [opening] at hopen

/-! ### Selections -/

section Selections

variable {t : Text} {here : Nat} {es : List Extent}

theorem selection_of_length_le (h : t.length ≤ here) : Selection t here es ↔ es = [] := by
  constructor
  · intro hsel
    refine List.eq_nil_iff_forall_not_mem.mpr fun e he => ?_
    obtain ⟨hlt, -⟩ := List.getElem?_eq_some_iff.mp (hsel.marker e he).opens
    have := hsel.from_here e he
    omega
  · rintro rfl
    refine ⟨by simp, by simp, by simp, .nil, fun s hs hopen => ?_⟩
    obtain ⟨hlt, -⟩ := List.getElem?_eq_some_iff.mp hopen
    omega

/-- Where no marker begins, a selection may as well begin one character further on. -/
theorem selection_of_no_marker (h : ∀ k, ¬MarkerAt t here k) :
    Selection t here es ↔ Selection t (here + 1) es := by
  constructor
  · intro hsel
    refine ⟨fun e he => ?_, hsel.marker, hsel.stop, hsel.apart,
      fun s hs => hsel.outside s (by omega)⟩
    have hle := hsel.from_here e he
    have hne : e.start ≠ here := fun heq => h e.close (heq ▸ hsel.marker e he)
    omega
  · intro hsel
    refine ⟨fun e he => ?_, hsel.marker, hsel.stop, hsel.apart, fun s hs hopen hout => ?_⟩
    · have := hsel.from_here e he
      omega
    · rcases Nat.eq_or_lt_of_le hs with rfl | hlt
      · exact h
      · exact hsel.outside s hlt hopen hout

/-- In a selection the value of a marker stops before all markers after it. -/
theorem Selection.stop_le {e : Extent} (h : Selection t here (e :: es)) :
    ∀ d ∈ es, e.stop ≤ d.start := by
  have hlt : ∀ d ∈ e :: es, d.start ≤ d.stop := by
    intro d hd
    have := (h.marker d hd).inner
    have := (h.stop d hd).le
    omega
  have happart := h.apart
  clear h
  induction es generalizing e with
  | nil => simp
  | cons a as ih =>
    obtain ⟨hea, has⟩ := List.isChain_cons_cons.mp happart
    intro d hd
    rcases List.mem_cons.mp hd with rfl | hd
    · exact hea
    · have hstop := ih (fun d hd => hlt d (List.mem_cons_of_mem _ hd)) has d hd
      have := hlt a (by simp)
      omega

/-- The markers after the first one are a selection from the end of its value on. -/
theorem Selection.tail {e : Extent} (h : Selection t here (e :: es)) : Selection t e.stop es := by
  have hfrom := h.from_here e List.mem_cons_self
  have hinner := (h.marker e List.mem_cons_self).inner
  have hle := (h.stop e List.mem_cons_self).le
  refine ⟨h.stop_le, fun d hd => h.marker d (List.mem_cons_of_mem _ hd),
    fun d hd => h.stop d (List.mem_cons_of_mem _ hd), h.apart.tail, fun s hs hopen hout => ?_⟩
  refine h.outside s (by omega) hopen fun d hd => ?_
  rcases List.mem_cons.mp hd with rfl | hd
  · omega
  · exact hout d hd

/-- Where a marker begins, a selection takes it and goes on after its value. -/
theorem Selection.exists_cons {k stop : Nat} (hm : MarkerAt t here k)
    (hs : FirstStop t (k + 1) stop) (hsel : Selection t here es) :
    ∃ rest, es = ⟨here, k, stop⟩ :: rest ∧ Selection t stop rest := by
  have hcover : ∃ e ∈ es, e.start ≤ here ∧ here < e.stop := by
    by_contra hnone
    exact hsel.outside here (Nat.le_refl _) hm.opens
      (fun e he hcov => hnone ⟨e, he, hcov⟩) k hm
  obtain ⟨e, he, hle, hlt⟩ := hcover
  cases es with
  | nil => cases he
  | cons a as =>
    -- Only the first marker can begin at `here`, as all others come after its value.
    have ha : a.start = here := by
      have hfrom := hsel.from_here a (by simp)
      rcases List.mem_cons.mp he with rfl | he
      · omega
      · have := hsel.stop_le e he
        have := (hsel.marker a (by simp)).inner
        have := (hsel.stop a (by simp)).le
        omega
    have hk : a.close = k := (ha ▸ hsel.marker a (by simp)).close_unique hm
    have hstop : a.stop = stop := (hk ▸ hsel.stop a (by simp)).unique hs
    exact ⟨as, by rw [← ha, ← hk, ← hstop], hstop ▸ hsel.tail⟩

theorem Selection.cons {k stop : Nat} (hm : MarkerAt t here k) (hs : FirstStop t (k + 1) stop)
    (hsel : Selection t stop es) : Selection t here (⟨here, k, stop⟩ :: es) := by
  have hlt : here < stop := by
    have := hm.inner
    have := hs.le
    omega
  refine ⟨?_, ?_, ?_, ?_, ?_⟩
  · intro d hd
    rcases List.mem_cons.mp hd with rfl | hd
    · exact Nat.le_refl _
    · have := hsel.from_here d hd
      omega
  · exact List.forall_mem_cons.mpr ⟨hm, hsel.marker⟩
  · exact List.forall_mem_cons.mpr ⟨hs, hsel.stop⟩
  · exact List.isChain_cons.mpr
      ⟨fun d hd => hsel.from_here d (List.mem_of_mem_head? hd), hsel.apart⟩
  · intro s hle hopen hout
    have hnot := hout _ List.mem_cons_self
    exact hsel.outside s (by simp at hnot; omega) hopen
      fun d hd => hout d (List.mem_cons_of_mem _ hd)

end Selections

/-- The offsets of a marker that the scan found. -/
def Candidate.extent (c : Candidate) : Extent :=
  ⟨c.start, c.close, c.stop⟩

/-- The scan finds a selection, and there is no other. -/
theorem selection_iff_scan {t : Text} {here : Nat} {es : List Extent} (hle : here ≤ t.length) :
    Selection t here es ↔ es = (scan here (t.drop here)).map Candidate.extent := by
  generalize hs : t.drop here = s
  revert es
  induction here, s using scan.induct with
  | case1 here s key rest hm found ih =>
    intro es
    subst hs
    have hmark : MarkerAt t here found.close := markerAt_of_marker? hm
    have hrest : t.drop (found.close + 1) = rest := drop_of_marker? hm
    have hstop : FirstStop t (found.close + 1) found.stop := by
      have := firstStop_splitValue hmark.close_lt
      rwa [hrest] at this
    have hnext : t.drop found.stop = (splitValue rest).2 := by
      rw [← drop_splitValue, ← hrest, List.drop_drop, hrest]
      rfl
    rw [scan_of_marker hm, List.map_cons]
    constructor
    · intro hsel
      obtain ⟨ds, rfl, hds⟩ := hsel.exists_cons hmark hstop
      rw [(ih hstop.stops.le_length hnext).mp hds]
      rfl
    · rintro rfl
      exact .cons hmark hstop ((ih hstop.stops.le_length hnext).mpr rfl)
  | case2 here =>
    intro es
    rw [scan_nil]
    exact selection_of_length_le (List.drop_eq_nil_iff.mp hs)
  | case3 here c r hm ih =>
    intro es
    have hno : ∀ k, ¬MarkerAt t here k := by
      intro k hk
      obtain ⟨key, rest, hsome, -⟩ := hk.exists_marker?
      rw [hs, hm] at hsome
      cases hsome
    have hlt : here < t.length := by
      by_contra hge
      rw [List.drop_eq_nil_of_le (by omega)] at hs
      cases hs
    have hnext : t.drop (here + 1) = r := by
      rw [← List.drop_drop, hs]
      rfl
    rw [selection_of_no_marker hno, scan_of_no_marker hm]
    exact ih hlt hnext

theorem selection_scan (t : Text) : Selection t 0 ((scan 0 t).map Candidate.extent) :=
  (selection_iff_scan (Nat.zero_le _)).mpr rfl

/-! ### Notes -/

namespace Extent

/-- The key of a marker of `t`, trimmed. -/
def key (t : Text) (e : Extent) : Text :=
  (t.slice (e.start + 1) e.close).trim

/-- The value of a marker of `t`, trimmed. -/
def value (t : Text) (e : Extent) : Text :=
  (t.slice (e.close + 1) e.stop).trim

/-- The note that a marker of `t` stands for. -/
def entry (source t : Text) (e : Extent) : Entry where
  key := e.key t
  value := e.value t
  source := source
  definition := LineSpan.around t e.start

end Extent

section Notes

variable {source t : Text}

/-- The offsets of a marker cut its key and its value out of the text. -/
theorem Candidate.Stands.slices {before after : Text} {c : Candidate}
    (h : c.Stands 0 t before after) :
    c.extent.key t = c.key.trim ∧ c.extent.value t = c.value.trim := by
  have hstart : c.start = before.length := by rw [h.start, Nat.zero_add]
  have hkey : t = (before ++ [opening]) ++ (c.key ++ (closing :: (c.value ++ after))) := by
    rw [h.eq]
    simp
  have hvalue : t = (before ++ opening :: (c.key ++ [closing])) ++ (c.value ++ after) := by
    rw [h.eq]
    simp
  constructor
  · have hcut := Text.slice_append (before ++ [opening]) c.key (closing :: (c.value ++ after))
    rw [← hkey, List.length_append, List.length_singleton, ← hstart] at hcut
    exact congrArg Text.trim hcut
  · have hcut := Text.slice_append (before ++ opening :: (c.key ++ [closing])) c.value after
    have hlen : (before ++ opening :: (c.key ++ [closing])).length = c.close + 1 := by
      simp [Candidate.close, hstart]
      omega
    rw [← hvalue, hlen] at hcut
    exact congrArg Text.trim hcut

theorem Candidate.Stands.entry?_eq {before after : Text} {c : Candidate}
    (h : c.Stands 0 t before after) :
    c.entry? source t =
      if c.extent.key t ≠ [] ∧ c.extent.value t ≠ [] then some (c.extent.entry source t)
      else none := by
  obtain ⟨hkey, hvalue⟩ := h.slices
  by_cases hblank : c.key.trim = [] ∨ c.value.trim = []
  · rw [if_neg (by rw [hkey, hvalue]; tauto), Candidate.entry?, if_pos hblank]
  · rw [if_pos (by rw [hkey, hvalue]; tauto), Candidate.entry?, if_neg hblank, Extent.entry, hkey,
      hvalue]
    rfl

/-- The notes that markers stand for are those of the offsets whose pieces are not blank. -/
theorem filterMap_entry?_eq {cs : List Candidate}
    (h : ∀ c ∈ cs, ∃ before after, c.Stands 0 t before after) :
    cs.filterMap (Candidate.entry? source t) =
      ((cs.map Candidate.extent).filter fun e => e.key t ≠ [] ∧ e.value t ≠ []).map
        (Extent.entry source t) := by
  calc cs.filterMap (Candidate.entry? source t)
      = cs.filterMap ((fun e : Extent => if e.key t ≠ [] ∧ e.value t ≠ [] then
          some (e.entry source t) else none) ∘ Candidate.extent) := by
        refine List.filterMap_congr fun c hc => ?_
        obtain ⟨before, after, hs⟩ := h c hc
        exact hs.entry?_eq
    _ = _ := by
        rw [← List.filterMap_map, ← congrFun (List.filterMap_eq_map (f := Extent.entry source t)),
          List.filterMap_filter]
        simp only [decide_eq_true_eq, Function.comp_apply]

/-- The notes of a text are, in order, its selected markers whose key and value are not blank. -/
theorem readNotes_of_selection {es : List Extent} (h : Selection t 0 es) (source : Text) :
    readNotes source t =
      (es.filter fun e => e.key t ≠ [] ∧ e.value t ≠ []).map (Extent.entry source t) := by
  rw [(selection_iff_scan (Nat.zero_le _)).mp h]
  exact filterMap_entry?_eq fun c hc => exists_stands_of_mem_scan hc

end Notes

/-- Each text has one selection of markers from its start on. Its notes are, in order, the selected
markers whose key and value are not blank. -/
theorem readNotes_eq_selected (source t : Text) :
    ∃ es, Selection t 0 es ∧ (∀ others, Selection t 0 others → others = es) ∧
      readNotes source t =
        (es.filter fun e => e.key t ≠ [] ∧ e.value t ≠ []).map (Extent.entry source t) := by
  refine ⟨(scan 0 t).map Candidate.extent, ?_, fun others hothers => ?_, ?_⟩
  · exact (selection_iff_scan (Nat.zero_le _)).mpr rfl
  · exact (selection_iff_scan (Nat.zero_le _)).mp hothers
  · exact filterMap_entry?_eq fun c hc => exists_stands_of_mem_scan hc

end Gloss
