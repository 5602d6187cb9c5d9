import Mathlib.Data.Set.Card
import Gloss.Proofs.Additivity
import Gloss.Proofs.Cursor

/-! How many occurrences of a key are found. Of those that do not overlap the search takes as many
as there can be, and of a key without a border it takes all that there are. -/

namespace Gloss

namespace Text

variable {key t : Text} {os : Set Nat} {found : List Nat}

/-- Stretches of `n` characters that begin at `a` and at `b` do not overlap. -/
def Apart (n a b : Nat) : Prop :=
  a + n ≤ b ∨ b + n ≤ a

instance (n : Nat) : Std.Symm (Apart n) := ⟨fun _ _ => Or.symm⟩

/-- Occurrences of the key in `t` of which no two overlap. -/
structure Packing (key t : Text) (os : Set Nat) : Prop where
  occurs : ∀ o ∈ os, OccursAt key t o
  apart : os.Pairwise (Apart key.length)

/-- Only the empty word and the whole both begin and end the word. -/
def Borderless (key : Text) : Prop :=
  ∀ w, w <+: key → w <:+ key → w = [] ∨ w = key

theorem borderless_iff : Borderless key ↔ ∀ w ∈ key.inits, w <:+ key → w = [] ∨ w = key := by
  simp only [Borderless, List.mem_inits]

instance (key : Text) : Decidable (Borderless key) :=
  decidable_of_iff _ borderless_iff.symm

/-! ### The most occurrences -/

namespace Leftmost

variable (h : Leftmost key t 0 found)

include h

theorem pairwise : found.Pairwise fun a b => a + key.length ≤ b :=
  have : Trans (fun a b => a + key.length ≤ b) (fun a b => a + key.length ≤ b)
      fun a b => a + key.length ≤ b := ⟨fun hab hbc => by omega⟩
  h.apart.pairwise

theorem packing : Packing key t {o | o ∈ found} where
  occurs := h.occurs
  apart _ ha _ hb hne :=
    have hapart : found.Pairwise (Apart key.length) := h.pairwise.imp Or.inl
    hapart.forall ha hb hne

theorem nodup (hne : key ≠ []) : found.Nodup := by
  have hpos := List.length_pos_of_ne_nil hne
  exact h.pairwise.imp fun hab heq => by omega

/-- Of occurrences that do not overlap, no two begin inside the same occurrence that is found. So
there are no more of them. -/
theorem encard_le (hos : Packing key t os) : os.encard ≤ found.length := by
  have hcover (o : Nat) : ∃ a, o ∈ os → a ∈ found ∧ a ≤ o ∧ o < a + key.length := by
    by_cases ho : o ∈ os
    · obtain ⟨a, ha⟩ := h.covered o (Nat.zero_le o) (hos.occurs o ho)
      exact ⟨a, fun _ => ha⟩
    · exact ⟨0, fun ho' => absurd ho' ho⟩
  choose start hstart using hcover
  have hinj : os.InjOn start := by
    intro o ho p hp heq
    obtain ⟨-, hlow, hhigh⟩ := hstart o ho
    obtain ⟨-, hlow', hhigh'⟩ := hstart p hp
    by_contra hne
    rcases hos.apart ho hp hne with hle | hle
    · omega
    · omega
  have hmaps : os.MapsTo start found.toFinset := fun o ho => List.mem_toFinset.mpr (hstart o ho).1
  calc os.encard ≤ (found.toFinset : Set Nat).encard := Set.encard_le_encard_of_injOn hmaps hinj
    _ = found.toFinset.card := Set.encard_coe_eq_coe_finsetCard _
    _ ≤ found.length := Nat.cast_le.mpr found.toFinset_card_le

theorem encard_eq (hne : key ≠ []) : {o | o ∈ found}.encard = found.length := by
  rw [← List.coe_toFinset, Set.encard_coe_eq_coe_finsetCard,
    List.toFinset_card_of_nodup (h.nodup hne)]

end Leftmost

/-! ### Keys without a border -/

/-- Two occurrences overlap only in a border of the key. -/
theorem Borderless.eq_of_overlap (hkey : Borderless key) {a b : Nat} (ha : OccursAt key t a)
    (hb : OccursAt key t b) (hle : a ≤ b) (hlt : b < a + key.length) : a = b := by
  have hdrop : key.drop (b - a) <+: t.drop b := by
    have := (occursAt_iff.mp ha).drop (b - a)
    rwa [List.drop_drop, Nat.add_sub_cancel' hle] at this
  have hlen : (key.drop (b - a)).length = key.length - (b - a) := List.length_drop
  have hpre : key.drop (b - a) <+: key :=
    List.prefix_of_prefix_length_le hdrop (occursAt_iff.mp hb) (by omega)
  rcases hkey _ hpre (List.drop_suffix _ key) with hnil | hall
  · rw [hnil, List.length_nil] at hlen
    omega
  · rw [hall] at hlen
    omega

theorem Borderless.mem_iff_occursAt (hkey : Borderless key) (h : Leftmost key t 0 found)
    {o : Nat} : o ∈ found ↔ OccursAt key t o := by
  refine ⟨h.occurs o, fun ho => ?_⟩
  obtain ⟨a, ha, hle, hlt⟩ := h.covered o (Nat.zero_le o) ho
  rwa [← hkey.eq_of_overlap (h.occurs a ha) ho hle hlt]

end Text

open Text

/-! ### Spans -/

section Spans

variable {note : Entry} {t : Text}

theorem Entry.mem_spans_iff {s : MatchSpan} :
    s ∈ note.spans t ↔ s.note = note ∧ s.start ∈ occurrences note.key t ∧
      s.stop = s.start + note.key.length := by
  rw [Entry.spans, List.mem_map]
  constructor
  · rintro ⟨o, ho, rfl⟩
    exact ⟨rfl, ho, rfl⟩
  · rintro ⟨rfl, hstart, hstop⟩
    exact ⟨s.start, hstart, by rw [← hstop]⟩

theorem Entry.setOf_start (note : Entry) (t : Text) :
    {o | ∃ s ∈ note.spans t, s.start = o} = {o | o ∈ occurrences note.key t} := by
  ext o
  constructor
  · rintro ⟨s, hs, rfl⟩
    exact (mem_spans_iff.mp hs).2.1
  · exact fun ho => ⟨⟨note, o, o + note.key.length⟩, mem_spans_iff.mpr ⟨rfl, ho, rfl⟩, rfl⟩

/-- A note is found under a cursor that touches it and none of the notes before it. -/
theorem exists_matchAt_iff {before after : List Entry} {c : Int}
    (hbefore : matchAt before t c = none) :
    (∃ m, matchAt (before ++ note :: after) t c = some m ∧ m.note = note) ↔ note.Touched t c := by
  constructor
  · rintro ⟨m, hm, rfl⟩
    obtain ⟨⟨_, _, -, htouched, -⟩, -⟩ := firstTouched_of_matchAt hm
    exact htouched
  · intro htouched
    rw [matchAt_append, hbefore, Option.none_or, ← List.singleton_append, matchAt_append]
    cases hnote : matchAt [note] t c with
    | none => exact absurd htouched (matchAt_eq_none_iff.mp hnote note (List.mem_singleton_self note))
    | some m =>
      refine ⟨m, rfl, ?_⟩
      exact List.mem_singleton.mp (firstTouched_of_matchAt hnote).1.mem

end Spans

/-- The spans of a key mark occurrences that do not overlap, and there is no set of such occurrences
with more members. A key without a border has a span at each of its occurrences; its note is found
under a cursor, if no note before it is, exactly when some occurrence has the cursor in it or at an
end. -/
theorem spans_largest_packing {note : Entry} (hkey : note.key ≠ []) (t : Text) :
    let starts := {o | ∃ s ∈ note.spans t, s.start = o}
    Packing note.key t starts ∧ starts.encard = (note.spans t).length ∧
      (∀ os, Packing note.key t os → os.encard ≤ (note.spans t).length) ∧
      (Borderless note.key →
        (∀ s, s ∈ note.spans t ↔ s.note = note ∧ OccursAt note.key t s.start ∧
          s.stop = s.start + note.key.length) ∧
        ∀ before after c, matchAt before t c = none →
          ((∃ m, matchAt (before ++ note :: after) t c = some m ∧ m.note = note) ↔
            ∃ o, OccursAt note.key t o ∧ (o : Int) ≤ c ∧ c ≤ (o + note.key.length : Nat))) := by
  intro starts
  have hleft := (leftmost_iff_occurrences (t := t) hkey).mpr rfl
  have hstarts : starts = {o | o ∈ occurrences note.key t} := note.setOf_start t
  have hlen : (note.spans t).length = (occurrences note.key t).length := List.length_map _
  rw [hstarts, hlen]
  refine ⟨hleft.packing, hleft.encard_eq hkey, fun os hos => hleft.encard_le hos,
    fun hborder => ⟨fun s => ?_, fun before after c hbefore => ?_⟩⟩
  · rw [Entry.mem_spans_iff, hborder.mem_iff_occursAt hleft]
  · rw [exists_matchAt_iff hbefore, Entry.Touched]
    constructor
    · rintro ⟨os, hos, o, ho, htouch⟩
      exact ⟨o, hos.occurs o ho, htouch⟩
    · rintro ⟨o, ho, htouch⟩
      exact ⟨_, hleft, o, (hborder.mem_iff_occursAt hleft).mpr ho, htouch⟩

/-- Of a key with a border an occurrence that overlaps is left out, and no choice of others has more
members. A key without one is found at both of its occurrences, behind a note that is elsewhere. -/
theorem spans_largest_packing_bordered :
    let aa : Entry := ⟨['a', 'a'], ['v'], ['n'], ⟨0, 0, 0⟩⟩
    let ab : Entry := ⟨['a', 'b'], ['v'], ['n'], ⟨1, 0, 0⟩⟩
    let t : Text := ['a', 'a', 'a', 'b', 'a', 'b']
    aa.key ≠ [] ∧ Packing aa.key t {1} ∧ ({1} : Set Nat).encard ≤ (aa.spans t).length ∧
      ab.key ≠ [] ∧ Borderless ab.key ∧ matchAt [aa] t 5 = none ∧
      (∀ s, s ∈ ab.spans t ↔ s.note = ab ∧ OccursAt ab.key t s.start ∧ s.stop = s.start + 2) ∧
      ∃ m, matchAt [aa, ab] t 5 = some m ∧ m.note = ab := by
  intro aa ab t
  have hpacking : Packing aa.key t {1} := by
    refine ⟨fun o ho => ?_, Set.pairwise_singleton 1 _⟩
    obtain rfl := Set.mem_singleton_iff.mp ho
    rfl
  have hab : Borderless ab.key := by decide
  have hnone : matchAt [aa] t 5 = none := by decide +kernel
  have haa_key : aa.key ≠ [] := List.cons_ne_nil _ _
  have hab_key : ab.key ≠ [] := List.cons_ne_nil _ _
  obtain ⟨-, -, hmost, -⟩ := spans_largest_packing haa_key t
  obtain ⟨-, -, -, hall⟩ := spans_largest_packing hab_key t
  obtain ⟨hspans, hfound⟩ := hall hab
  refine ⟨haa_key, hpacking, hmost _ hpacking, hab_key, hab, hnone, hspans, ?_⟩
  exact (hfound [aa] [] 5 hnone).mpr ⟨4, rfl, by decide, by decide⟩

end Gloss
