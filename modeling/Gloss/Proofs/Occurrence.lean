import Mathlib.Data.List.Basic
import Gloss.Proofs.Lines
import Gloss.Text.Occurrence

/-! The occurrences of a key in a text that is put together from others. A key without a line feed
occurs in a text where it occurs in the lines of the text. -/

namespace Gloss.Text

variable {key t : Text} {here : Nat}

@[simp] theorem occurrencesFrom_nil : occurrencesFrom key here [] = [] := by
  rw [occurrencesFrom]

theorem occurrencesFrom_of_found {c : Char} {r : Text} (h : key.isPrefixOf (c :: r)) :
    occurrencesFrom key here (c :: r) =
      here :: occurrencesFrom key (here + key.length) (r.drop (key.length - 1)) := by
  rw [occurrencesFrom, if_pos h]

theorem occurrencesFrom_of_absent {c : Char} {r : Text} (h : ¬key.isPrefixOf (c :: r)) :
    occurrencesFrom key here (c :: r) = occurrencesFrom key (here + 1) r := by
  rw [occurrencesFrom, if_neg h]

/-- Where the key is found, it stands. -/
theorem prefix_of_mem_occurrencesFrom (hne : key ≠ []) {o : Nat}
    (ho : o ∈ occurrencesFrom key here t) : ∃ q, o = here + q ∧ key <+: t.drop q := by
  have hpos := List.length_pos_of_ne_nil hne
  induction here, t using occurrencesFrom.induct key with
  | case1 here => simp at ho
  | case2 here c r hpre ih =>
    rw [occurrencesFrom_of_found hpre, List.mem_cons] at ho
    rcases ho with rfl | ho
    · exact ⟨0, rfl, List.isPrefixOf_iff_prefix.mp hpre⟩
    · obtain ⟨q, rfl, hq⟩ := ih ho
      refine ⟨key.length - 1 + q + 1, by omega, ?_⟩
      rwa [List.drop_succ_cons, ← List.drop_drop]
  | case3 here c r hpre ih =>
    rw [occurrencesFrom_of_absent hpre] at ho
    obtain ⟨q, rfl, hq⟩ := ih ho
    exact ⟨q + 1, by omega, by rwa [List.drop_succ_cons]⟩

theorem occurrencesFrom_shift (n here : Nat) (key t : Text) :
    occurrencesFrom key (n + here) t = (occurrencesFrom key here t).map (n + ·) := by
  induction here, t using occurrencesFrom.induct key with
  | case1 here => simp
  | case2 here c r hpre ih =>
    rw [occurrencesFrom_of_found hpre, occurrencesFrom_of_found hpre, List.map_cons, ← ih,
      Nat.add_assoc]
  | case3 here c r hpre ih =>
    rw [occurrencesFrom_of_absent hpre, occurrencesFrom_of_absent hpre, ← ih, Nat.add_assoc]

/-- If no occurrence begins in `t` and runs over its end, the occurrences in `t` with `s` after it
are those in the two. -/
theorem occurrencesFrom_append (hne : key ≠ []) {s : Text}
    (h : ∀ w, w <:+ t → w ≠ [] → key <+: w ++ s → key <+: w) :
    occurrencesFrom key here (t ++ s) =
      occurrencesFrom key here t ++ occurrencesFrom key (here + t.length) s := by
  have hpos := List.length_pos_of_ne_nil hne
  induction here, t using occurrencesFrom.induct key with
  | case1 here => simp
  | case2 here c r hpre ih =>
    have hfound := List.isPrefixOf_iff_prefix.mp hpre
    have hlen := hfound.length_le
    rw [List.length_cons] at hlen
    have hpre' : key.isPrefixOf (c :: (r ++ s)) :=
      List.isPrefixOf_iff_prefix.mpr (hfound.trans (List.prefix_append (c :: r) s))
    have hsuffix : r.drop (key.length - 1) <:+ c :: r :=
      (List.drop_suffix _ r).trans (List.suffix_cons c r)
    rw [occurrencesFrom_of_found hpre, List.cons_append, occurrencesFrom_of_found hpre',
      List.drop_append_of_le_length (by omega), ih fun w hw => h w (hw.trans hsuffix),
      List.cons_append, List.length_drop, List.length_cons,
      show here + key.length + (r.length - (key.length - 1)) = here + (r.length + 1) by omega]
  | case3 here c r hpre ih =>
    have hpre' : ¬key.isPrefixOf (c :: (r ++ s)) := by
      intro hpre'
      have := h (c :: r) (List.suffix_refl _) (by simp) (List.isPrefixOf_iff_prefix.mp hpre')
      exact hpre (List.isPrefixOf_iff_prefix.mpr this)
    rw [occurrencesFrom_of_absent hpre, List.cons_append, occurrencesFrom_of_absent hpre',
      ih fun w hw => h w (hw.trans (List.suffix_cons c r)), List.length_cons,
      show here + 1 + r.length = here + (r.length + 1) by omega]

/-- A key does not run over a character that it has not. -/
theorem prefix_of_prefix_append_cons {c : Char} {w s : Text} (hc : c ∉ key)
    (h : key <+: w ++ c :: s) : key <+: w := by
  rcases Nat.lt_or_ge w.length key.length with hlt | hle
  · have hw : w ++ [c] <+: w ++ c :: s := ⟨s, by simp⟩
    have hsub := List.prefix_of_prefix_length_le hw h (by simp; omega)
    exact absurd (hsub.subset (by simp)) hc
  · exact List.prefix_of_prefix_length_le h (List.prefix_append w _) hle

theorem occurrencesFrom_append_cons (hne : key ≠ []) {c : Char} (hc : c ∉ key) (s : Text) :
    occurrencesFrom key here (t ++ c :: s) =
      occurrencesFrom key here t ++ occurrencesFrom key (here + t.length + 1) s := by
  have hpre : ¬key.isPrefixOf (c :: s) := by
    intro hpre
    exact hne (List.prefix_nil.mp
      (prefix_of_prefix_append_cons (w := []) hc (List.isPrefixOf_iff_prefix.mp hpre)))
  rw [occurrencesFrom_append hne fun w _ _ hw => prefix_of_prefix_append_cons hc hw,
    occurrencesFrom_of_absent hpre]

/-- A key does not run over a last character other than its own. -/
theorem prefix_of_prefix_concat {c : Char} {w : Text} (hlast : key.getLast? ≠ some c)
    (h : key <+: w ++ [c]) : key <+: w := by
  rcases List.prefix_concat_iff.mp h with rfl | hw
  · simp at hlast
  · exact hw

/-- The carriage return that ends a line has no part in the occurrences of a key that does not end
with one. -/
theorem occurrences_dropReturn (hlast : key.getLast? ≠ some '\r') (line : Text) :
    occurrences key (dropReturn line) = occurrences key line := by
  by_cases hne : key = []
  · rw [hne, occurrences_nil, occurrences_nil]
  by_cases hreturn : line.getLast? = some '\r'
  · obtain ⟨init, rfl⟩ := List.getLast?_eq_some_iff.mp hreturn
    have hdrop : dropReturn (init ++ ['\r']) = init := by simp [dropReturn]
    have hpre : ¬key.isPrefixOf ['\r'] := by
      intro hpre
      exact hne (List.prefix_nil.mp
        (prefix_of_prefix_concat (w := []) hlast (List.isPrefixOf_iff_prefix.mp hpre)))
    rw [hdrop, occurrences, occurrences, if_neg hne, if_neg hne,
      occurrencesFrom_append hne fun w _ _ hw => prefix_of_prefix_concat hlast hw,
      occurrencesFrom_of_absent hpre, occurrencesFrom_nil, List.append_nil]
  · rw [dropReturn, if_neg hreturn]

/-- The occurrences in a text of a key without a line feed: those before a line, those in the line,
and those after it. -/
theorem occurrences_of_cut {before line after : Text} (hcut : Cut t before line after)
    (hne : key ≠ []) (hfeed : '\n' ∉ key) :
    ∃ front back, occurrences key t =
        front ++ ((occurrences key line).map (before.length + ·) ++ back) ∧
      (∀ o ∈ front, o < before.length) ∧ ∀ o ∈ back, before.length + line.length < o := by
  have hrest : ∃ back, occurrencesFrom key before.length (line ++ after) =
      occurrencesFrom key before.length line ++ back ∧
        ∀ o ∈ back, before.length + line.length < o := by
    rcases hcut.after_begins with rfl | ⟨rest, rfl⟩
    · exact ⟨[], by simp, by simp⟩
    · refine ⟨_, occurrencesFrom_append_cons hne hfeed rest, fun o ho => ?_⟩
      obtain ⟨q, rfl, -⟩ := prefix_of_mem_occurrencesFrom hne ho
      omega
  obtain ⟨back, hback, hlater⟩ := hrest
  have hline : occurrencesFrom key before.length line =
      (occurrences key line).map (before.length + ·) := by
    rw [occurrences, if_neg hne, ← occurrencesFrom_shift, Nat.add_zero]
  rw [hline] at hback
  rw [occurrences, if_neg hne, hcut.eq]
  rcases hcut.before_ends with rfl | ⟨above, rfl⟩
  · exact ⟨[], back, hback, by simp, hlater⟩
  · refine ⟨occurrencesFrom key 0 above, back, ?_, fun o ho => ?_, hlater⟩
    · rw [List.append_assoc, List.singleton_append, occurrencesFrom_append_cons hne hfeed,
        show 0 + above.length + 1 = (above ++ ['\n']).length by simp, hback]
    · obtain ⟨q, rfl, hq⟩ := prefix_of_mem_occurrencesFrom hne ho
      have hlen := hq.length_le
      have hpos := List.length_pos_of_ne_nil hne
      rw [List.length_drop] at hlen
      rw [List.length_append, List.length_singleton]
      omega

theorem mem_occurrences_of_cut {before line after : Text} (hcut : Cut t before line after)
    (hne : key ≠ []) (hfeed : '\n' ∉ key) {q : Nat} (hq : q ≤ line.length) :
    before.length + q ∈ occurrences key t ↔ q ∈ occurrences key line := by
  obtain ⟨front, back, heq, hfront, hback⟩ := occurrences_of_cut hcut hne hfeed
  rw [heq, List.mem_append, List.mem_append]
  constructor
  · rintro (hmem | hmem | hmem)
    · have := hfront _ hmem
      omega
    · obtain ⟨q', hq', heq'⟩ := List.mem_map.mp hmem
      obtain rfl : q' = q := by omega
      exact hq'
    · have := hback _ hmem
      omega
  · intro hmem
    exact .inr (.inl (List.mem_map_of_mem hmem))

/-- An occurrence in a text and the key after it lie within the text. -/
theorem length_le_of_mem_occurrences {o : Nat} (ho : o ∈ occurrences key t) :
    key ≠ [] ∧ key <+: t.drop o ∧ o + key.length ≤ t.length := by
  have hne : key ≠ [] := by
    rintro rfl
    simp at ho
  have hpos := List.length_pos_of_ne_nil hne
  rw [occurrences, if_neg hne] at ho
  obtain ⟨q, rfl, hq⟩ := prefix_of_mem_occurrencesFrom hne ho
  have hlen := hq.length_le
  rw [List.length_drop] at hlen
  rw [Nat.zero_add]
  exact ⟨hne, hq, by omega⟩

theorem exists_append_of_mem_occurrences {o : Nat} (ho : o ∈ occurrences key t) :
    ∃ front rest, t = front ++ (key ++ rest) ∧ front.length = o := by
  obtain ⟨-, ⟨rest, hrest⟩, hle⟩ := length_le_of_mem_occurrences ho
  refine ⟨t.take o, rest, ?_, ?_⟩
  · rw [hrest, List.take_append_drop]
  · rw [List.length_take]
    omega

theorem take_of_mem_occurrences {o : Nat} (ho : o ∈ occurrences key t) :
    t.take (o + key.length) = t.take o ++ key := by
  obtain ⟨front, rest, rfl, rfl⟩ := exists_append_of_mem_occurrences ho
  rw [List.take_left, ← List.append_assoc, ← List.length_append, List.take_left]

theorem slice_of_mem_occurrences {o : Nat} (ho : o ∈ occurrences key t) :
    t.slice o (o + key.length) = key := by
  obtain ⟨front, rest, rfl, rfl⟩ := exists_append_of_mem_occurrences ho
  exact slice_append front key rest

end Gloss.Text
