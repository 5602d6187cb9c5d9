import Gloss.Line
import Gloss.Proofs.Text

/-! Texts cut at a line: what stands before it, the line without its line feed, and what follows.
The line around an offset is the one whose cut has the offset in its line. -/

namespace Gloss

namespace Text

/-- `t` is `before`, the line `line` without its line feed, and `after`. -/
structure Cut (t before line after : Text) : Prop where
  eq : t = before ++ (line ++ after)
  before_ends : before = [] ∨ ∃ front, before = front ++ ['\n']
  no_feed : '\n' ∉ line
  after_begins : after = [] ∨ ∃ back, after = '\n' :: back

variable {t before line after : Text}

theorem dropReturn_prefix (t : Text) : dropReturn t <+: t := by
  unfold dropReturn
  split
  · exact List.dropLast_prefix t
  · exact List.prefix_rfl

theorem exists_last_feed (t : Text) :
    ∃ before line, t = before ++ line ∧ (before = [] ∨ ∃ front, before = front ++ ['\n']) ∧
      '\n' ∉ line := by
  induction t with
  | nil => exact ⟨[], [], rfl, .inl rfl, by simp⟩
  | cons c r ih =>
    obtain ⟨before, line, rfl, hbefore, hline⟩ := ih
    rcases hbefore with rfl | ⟨front, rfl⟩
    · by_cases hc : c = '\n'
      · exact ⟨['\n'], line, by simp [hc], .inr ⟨[], rfl⟩, hline⟩
      · exact ⟨[], c :: line, rfl, .inl rfl, by simp [hline, Ne.symm hc]⟩
    · exact ⟨c :: (front ++ ['\n']), line, rfl, .inr ⟨c :: front, rfl⟩, hline⟩

theorem exists_first_feed (t : Text) :
    ∃ line after, t = line ++ after ∧ '\n' ∉ line ∧
      (after = [] ∨ ∃ back, after = '\n' :: back) := by
  by_cases hmem : '\n' ∈ t
  · obtain ⟨line, back, rfl, hline⟩ := List.eq_append_cons_of_mem hmem
    exact ⟨line, '\n' :: back, rfl, hline, .inr ⟨back, rfl⟩⟩
  · exact ⟨t, [], by simp, hmem, .inl rfl⟩

/-- Every offset of a text lies in a line of it, or just after one. -/
theorem exists_cut {i : Nat} (hi : i ≤ t.length) :
    ∃ before line after, Cut t before line after ∧ before.length ≤ i ∧
      i ≤ before.length + line.length := by
  obtain ⟨before, left, hleft, hbefore, hnotleft⟩ := exists_last_feed (t.take i)
  obtain ⟨right, after, hright, hnotright, hafter⟩ := exists_first_feed (t.drop i)
  have hlen : i = before.length + left.length := by
    have := congrArg List.length hleft
    simp only [List.length_take, List.length_append] at this
    omega
  refine ⟨before, left ++ right, after, ⟨?_, hbefore, ?_, hafter⟩, by omega, ?_⟩
  · rw [← List.take_append_drop i t, hleft, hright]
    simp
  · simp [hnotleft, hnotright]
  · rw [List.length_append]
    omega

/-- Every number up to that of the last line is the number of a line. -/
theorem exists_cut_of_le_count {n : Nat} (hn : n ≤ t.count '\n') :
    ∃ before line after, Cut t before line after ∧ before.count '\n' = n := by
  induction n with
  | zero =>
    obtain ⟨line, after, rfl, hline, hafter⟩ := exists_first_feed t
    exact ⟨[], line, after, ⟨rfl, .inl rfl, hline, hafter⟩, rfl⟩
  | succ n ih =>
    obtain ⟨before, line, after, hcut, hcount⟩ := ih (by omega)
    rcases hcut.after_begins with rfl | ⟨back, rfl⟩
    · -- The line of number `n` would be the last one.
      have := List.count_eq_zero_of_not_mem hcut.no_feed
      rw [hcut.eq, List.append_nil, List.count_append] at hn
      omega
    · obtain ⟨next, after, rfl, hnext, hafter⟩ := exists_first_feed back
      refine ⟨before ++ (line ++ ['\n']), next, after,
        ⟨?_, .inr ⟨before ++ line, by simp⟩, hnext, hafter⟩, ?_⟩
      · rw [hcut.eq]
        simp
      · rw [List.count_append, List.count_append, hcount,
          List.count_eq_zero_of_not_mem hcut.no_feed]
        rfl

namespace Cut

theorem length_le (h : Cut t before line after) : before.length + line.length ≤ t.length := by
  rw [h.eq, List.length_append, List.length_append]
  omega

theorem getElem? (h : Cut t before line after) (i : Nat) :
    t[before.length + i]? = (line ++ after)[i]? := by
  rw [h.eq, List.getElem?_append_right (by omega), Nat.add_sub_cancel_left]

theorem mem_of_mem_line (h : Cut t before line after) {c : Char} (hc : c ∈ line) : c ∈ t := by
  rw [h.eq]
  simp [hc]

/-- Between the start of a line and an offset in it there is no line feed. -/
theorem count_take (h : Cut t before line after) {i : Nat} (hlow : before.length ≤ i)
    (hhigh : i ≤ before.length + line.length) : (t.take i).count '\n' = before.count '\n' := by
  obtain ⟨q, rfl⟩ : ∃ q, i = before.length + q := ⟨i - before.length, by omega⟩
  have hnone : '\n' ∉ line.take q := fun hmem => h.no_feed (List.mem_of_mem_take hmem)
  rw [h.eq, List.take_length_add_append, List.take_append_of_le_length (by omega),
    List.count_append, List.count_eq_zero_of_not_mem hnone, Nat.add_zero]

/-- A line is the piece of its number between the line feeds. -/
theorem getElem?_pieces (h : Cut t before line after) :
    (pieces '\n' t)[before.count '\n']? = some line := by
  have hrest : ∃ more, pieces '\n' (line ++ after) = line :: more := by
    rcases h.after_begins with rfl | ⟨back, rfl⟩
    · exact ⟨[], by rw [List.append_nil, pieces_of_not_mem h.no_feed]⟩
    · exact ⟨pieces '\n' back, by rw [pieces_append_cons, pieces_of_not_mem h.no_feed]; rfl⟩
  obtain ⟨more, hmore⟩ := hrest
  rcases h.before_ends with rfl | ⟨front, rfl⟩
  · rw [h.eq, List.nil_append, hmore]
    rfl
  · have hcount : (front ++ ['\n']).count '\n' = (pieces '\n' front).length := by
      rw [length_pieces, List.count_append, List.count_singleton_self]
    rw [h.eq, List.append_assoc, List.singleton_append, pieces_append_cons, hmore, hcount,
      List.getElem?_append_right (Nat.le_refl _), Nat.sub_self]
    rfl

/-- The line without the carriage return that ends it, cut out of the text by its offsets. -/
theorem slice_dropReturn (h : Cut t before line after) :
    t.slice before.length (before.length + (dropReturn line).length) = dropReturn line := by
  obtain ⟨rest, hrest⟩ := dropReturn_prefix line
  have hslice := slice_append before (dropReturn line) (rest ++ after)
  rwa [← List.append_assoc (dropReturn line), hrest, ← h.eq] at hslice

/-- A line of a text stays a line when more lines follow. -/
theorem append_lines (h : Cut t before line after) (s : Text) :
    Cut (t ++ '\n' :: s) before line (after ++ '\n' :: s) := by
  refine ⟨by simp [h.eq], h.before_ends, h.no_feed, .inr ?_⟩
  rcases h.after_begins with rfl | ⟨back, rfl⟩
  · exact ⟨s, rfl⟩
  · exact ⟨back ++ '\n' :: s, rfl⟩

/-- A line of a text stays a line below other lines. -/
theorem prepend_lines (h : Cut t before line after) (s : Text) :
    Cut (s ++ '\n' :: t) (s ++ '\n' :: before) line after := by
  refine ⟨by simp [h.eq], .inr ?_, h.no_feed, h.after_begins⟩
  rcases h.before_ends with rfl | ⟨front, rfl⟩
  · exact ⟨s, rfl⟩
  · exact ⟨s ++ '\n' :: front, by simp⟩

end Cut

/-- The pieces between the line feeds are the lines. -/
theorem exists_cut_of_getElem?_pieces {n : Nat} (h : (pieces '\n' t)[n]? = some line) :
    ∃ before after, Cut t before line after ∧ before.count '\n' = n := by
  obtain ⟨hlt, -⟩ := List.getElem?_eq_some_iff.mp h
  rw [length_pieces] at hlt
  obtain ⟨before, line', after, hcut, rfl⟩ := exists_cut_of_le_count (n := n) (t := t) (by omega)
  rw [hcut.getElem?_pieces, Option.some.injEq] at h
  exact ⟨before, after, h ▸ hcut, rfl⟩

theorem lastLineStart_append (hbefore : before = [] ∨ ∃ front, before = front ++ ['\n'])
    (hline : '\n' ∉ line) : lastLineStart (before ++ line) = before.length := by
  have htake : (before ++ line).reverse.takeWhile (· ≠ '\n') = line.reverse := by
    rw [List.reverse_append, takeWhile_ne_append (by simpa using hline)]
    rcases hbefore with rfl | ⟨front, rfl⟩ <;> simp
  rw [lastLineStart, htake, List.length_append, List.length_reverse, Nat.add_sub_cancel]

theorem takeWhile_append_after (hline : '\n' ∉ line)
    (hafter : after = [] ∨ ∃ back, after = '\n' :: back) :
    (line ++ after).takeWhile (· ≠ '\n') = line := by
  rw [takeWhile_ne_append hline]
  rcases hafter with rfl | ⟨back, rfl⟩ <;> simp

end Text

open Text

/-- The line around an offset in a line is that line, without the carriage return that ends it. -/
theorem LineSpan.around_of_cut {t before line after : Text} {i : Nat} (h : Cut t before line after)
    (hlow : before.length ≤ i) (hhigh : i ≤ before.length + line.length) :
    LineSpan.around t i =
      ⟨before.count '\n', before.length, before.length + (dropReturn line).length⟩ := by
  have hplace : place t.length i = i := by
    have := h.length_le
    simp only [place, Int.toNat_natCast]
    split <;> omega
  obtain ⟨left, right, rfl, hleft⟩ : ∃ left right, line = left ++ right ∧
      left.length = i - before.length :=
    ⟨line.take (i - before.length), line.drop (i - before.length),
      (List.take_append_drop _ _).symm, by rw [List.length_take]; omega⟩
  obtain ⟨hnotleft, hnotright⟩ : '\n' ∉ left ∧ '\n' ∉ right := by
    simpa using h.no_feed
  have hi : i = (before ++ left).length := by
    rw [List.length_append]
    omega
  have htake : t.take i = before ++ left := by
    rw [h.eq, hi, List.append_assoc, ← List.append_assoc before, List.take_left]
  have hdrop : t.drop i = right ++ after := by
    rw [h.eq, hi, List.append_assoc, ← List.append_assoc before, List.drop_left]
  have hstart : t.take before.length = before := by rw [h.eq, List.take_left]
  have hslice : t.slice before.length (i + right.length) = left ++ right := by
    have := slice_append before (left ++ right) after
    rwa [← h.eq, List.length_append, ← Nat.add_assoc, ← List.length_append, ← hi] at this
  rw [LineSpan.around]
  simp only [hplace, htake, hdrop, lastLineStart_append h.before_ends hnotleft,
    takeWhile_append_after hnotright h.after_begins, hstart, hslice]

end Gloss
