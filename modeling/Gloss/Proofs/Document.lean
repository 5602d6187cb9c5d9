import Gloss.Document
import Gloss.Proofs.Lines

/-! The lines and the positions of a document, read off the cuts of its text: the table of line
starts, the binary search in it, and what they give for a line and for an offset in it. -/

namespace Gloss

/-! ### The table of line starts -/

theorem startsAfterBreaks_append (here : Nat) (t s : Text) :
    startsAfterBreaks here (t ++ s) =
      startsAfterBreaks here t ++ startsAfterBreaks (here + t.length) s := by
  induction t generalizing here with
  | nil => rfl
  | cons c r ih =>
    have hlen : here + (c :: r).length = here + 1 + r.length := by
      rw [List.length_cons]
      omega
    by_cases hc : c = '\n'
    · simp only [List.cons_append, startsAfterBreaks, if_pos hc, ih, hlen]
    · simp only [List.cons_append, startsAfterBreaks, if_neg hc, ih, hlen]

theorem startsAfterBreaks_of_no_feed {t : Text} (h : '\n' ∉ t) (here : Nat) :
    startsAfterBreaks here t = [] := by
  induction t generalizing here with
  | nil => rfl
  | cons c r ih =>
    have hc : c ≠ '\n' := fun heq => h (by simp [heq])
    rw [startsAfterBreaks, if_neg hc, ih fun hmem => h (List.mem_cons_of_mem _ hmem)]

theorem length_startsAfterBreaks (here : Nat) (t : Text) :
    (startsAfterBreaks here t).length = t.count '\n' := by
  induction t generalizing here with
  | nil => rfl
  | cons c r ih =>
    by_cases hc : c = '\n'
    · rw [startsAfterBreaks, if_pos hc, List.length_cons, ih, hc, List.count_cons_self]
    · rw [startsAfterBreaks, if_neg hc, ih, List.count_cons_of_ne hc]

theorem bounds_of_mem_startsAfterBreaks {here x : Nat} {t : Text}
    (hx : x ∈ startsAfterBreaks here t) : here < x ∧ x ≤ here + t.length := by
  induction t generalizing here with
  | nil => cases hx
  | cons c r ih =>
    rw [List.length_cons]
    by_cases hc : c = '\n'
    · rw [startsAfterBreaks, if_pos hc, List.mem_cons] at hx
      rcases hx with rfl | hx
      · omega
      · have := ih hx
        omega
    · rw [startsAfterBreaks, if_neg hc] at hx
      have := ih hx
      omega

/-- The table of line starts, seen from a line: the starts of the lines before it, its own, and
those of the lines after it, the first of which comes after the line feed. -/
theorem lineTable_of_cut {t before line after : Text} (h : Text.Cut t before line after) :
    ∃ front back, lineTable t = (front ++ [before.length]) ++ back ∧
      front.length = before.count '\n' ∧ (∀ x ∈ front, x < before.length) ∧
      (∀ x ∈ back, before.length + line.length < x) ∧
      back.head? = after.head?.map fun _ => before.length + line.length + 1 := by
  have hfront : ∃ front, 0 :: startsAfterBreaks 0 before = front ++ [before.length] ∧
      front.length = before.count '\n' ∧ ∀ x ∈ front, x < before.length := by
    rcases h.before_ends with rfl | ⟨above, rfl⟩
    · exact ⟨[], rfl, rfl, by simp⟩
    · refine ⟨0 :: startsAfterBreaks 0 above, ?_, ?_, fun x hx => ?_⟩
      · rw [startsAfterBreaks_append]
        simp [startsAfterBreaks]
      · simp [length_startsAfterBreaks]
      · rw [List.length_append, List.length_singleton]
        rcases List.mem_cons.mp hx with rfl | hx
        · omega
        · have := bounds_of_mem_startsAfterBreaks hx
          omega
  obtain ⟨front, htable, hlen, hlt⟩ := hfront
  refine ⟨front, startsAfterBreaks (before.length + line.length) after, ?_, hlen, hlt,
    fun x hx => (bounds_of_mem_startsAfterBreaks hx).1, ?_⟩
  · rw [lineTable, h.eq, startsAfterBreaks_append, startsAfterBreaks_append,
      startsAfterBreaks_of_no_feed h.no_feed, List.nil_append, Nat.zero_add, ← List.cons_append,
      htable]
  · rcases h.after_begins with rfl | ⟨rest, rfl⟩
    · rfl
    · simp [startsAfterBreaks]

/-! ### The binary search -/

/-- In a table whose first members are at most `x` and whose others are above, the search counts
the first. -/
theorem upperBound_eq {table : Array Nat} {x low high : Nat} {front back : List Nat}
    (htable : table.toList = front ++ back) (hfront : ∀ y ∈ front, y ≤ x)
    (hback : ∀ y ∈ back, x < y) (hlow : low ≤ front.length) (hhigh : front.length ≤ high)
    (hsize : high ≤ table.size) : upperBound table x low high hsize = front.length := by
  have hget : ∀ i (hi : i < table.size), x < table[i] ↔ front.length ≤ i := by
    intro i hi
    have hi' : i < (front ++ back).length := by
      rw [← htable, Array.length_toList]
      exact hi
    have heq : table[i] = (front ++ back)[i] := by
      simp only [← htable, Array.getElem_toList]
    rw [heq]
    rcases Nat.lt_or_ge i front.length with hlt | hge
    · rw [List.getElem_append_left hlt]
      have := hfront _ (List.getElem_mem hlt)
      omega
    · have hlt : i - front.length < back.length := by
        rw [List.length_append] at hi'
        omega
      rw [List.getElem_append_right hge]
      have := hback _ (List.getElem_mem hlt)
      omega
  induction low, high, hsize using upperBound.induct table x with
  | case1 low high hsize hlt mid hmid hbelow ih =>
    rw [upperBound, dif_pos hlt]
    simp only
    rw [if_pos hbelow]
    exact ih hlow ((hget _ _).mp hbelow)
  | case2 low high hsize hlt mid hmid hbelow ih =>
    rw [upperBound, dif_pos hlt]
    simp only
    rw [if_neg hbelow]
    have := mt (hget mid hmid).mpr hbelow
    exact ih (by omega) hhigh
  | case3 low high hsize hge =>
    rw [upperBound, dif_neg hge]
    omega

/-! ### Lines and positions -/

namespace Document

variable {d : Document} {before line after : Text}

theorem lineCount_eq (d : Document) : d.lineCount = d.text.count '\n' + 1 := by
  simp [lineCount, d.starts_eq, lineTable, length_startsAfterBreaks]

theorem startOf_of_cut (h : Text.Cut d.text before line after) :
    d.startOf (before.count '\n') = before.length := by
  obtain ⟨front, back, htable, hlen, -, -, -⟩ := lineTable_of_cut h
  rw [startOf, d.starts_eq, htable, ← hlen]
  simp

theorem stopOf_of_cut (h : Text.Cut d.text before line after) :
    d.stopOf (before.count '\n') = before.length + line.length := by
  obtain ⟨front, back, htable, hlen, -, -, hhead⟩ := lineTable_of_cut h
  have hstarts : d.starts = ((front ++ [before.length]) ++ back).toArray := by
    rw [d.starts_eq, htable]
  have hcount : d.lineCount = front.length + 1 + back.length := by
    simp [lineCount, hstarts]
    omega
  rw [stopOf, hcount, ← hlen]
  rcases h.after_begins with hafter | ⟨rest, hafter⟩
  · have hback : back = [] := by simpa [hafter] using hhead
    have htext : d.text.length = before.length + line.length := by
      rw [h.eq, hafter, List.append_nil, List.length_append]
    rw [if_neg (by rw [hback, List.length_nil]; omega), htext]
  · obtain ⟨more, hback⟩ : ∃ more, back = (before.length + line.length + 1) :: more := by
      rw [hafter] at hhead
      exact List.head?_eq_some_iff.mp hhead
    have hnext : d.startOf (front.length + 1) = before.length + line.length + 1 := by
      simp [startOf, hstarts, hback]
    rw [if_pos (by rw [hback, List.length_cons]; omega), hnext]
    omega

/-- The text of a line of a document is the line, without the carriage return that ends it. -/
theorem lineText_of_cut (h : Text.Cut d.text before line after) :
    d.lineText (before.count '\n') = Text.dropReturn line := by
  rw [lineText, startOf_of_cut h, stopOf_of_cut h]
  congr 1
  have := Text.slice_append before line after
  rwa [← h.eq] at this

/-- The search for an offset in a line, or just after it, counts the lines up to that one. -/
theorem upperBound_of_cut (h : Text.Cut d.text before line after) {q : Nat}
    (hq : q ≤ line.length) :
    upperBound d.starts (before.length + q) 0 d.starts.size (Nat.le_refl _) =
      before.count '\n' + 1 := by
  obtain ⟨front, back, htable, hlen, hfront, hback, -⟩ := lineTable_of_cut h
  have hstarts : d.starts.toList = (front ++ [before.length]) ++ back := by
    rw [d.starts_eq, htable]
  have hsize : (front ++ [before.length]).length ≤ d.starts.size := by
    simp [d.starts_eq, htable]
  rw [upperBound_eq hstarts ?_ ?_ (Nat.zero_le _) hsize, List.length_append, List.length_singleton,
    hlen]
  · intro y hy
    rcases List.mem_append.mp hy with hy | hy
    · have := hfront y hy
      omega
    · have := List.mem_singleton.mp hy
      omega
  · intro y hy
    have := hback y hy
    omega

/-- An offset in a line, or just after it, is the position of that line and of the character that
many after its first. -/
theorem positionAt_of_cut (h : Text.Cut d.text before line after) {q : Nat}
    (hq : q ≤ line.length) :
    d.positionAt (before.length + q : Nat) = ⟨before.count '\n', q⟩ := by
  have hlenle := h.length_le
  have hhere : min (before.length + q) d.text.length = before.length + q := by omega
  simp only [positionAt, Int.toNat_natCast, hhere, upperBound_of_cut h hq, Nat.add_sub_cancel,
    startOf_of_cut h, Nat.add_sub_cancel_left]

/-- The number of a line of a document has a cut of the text at that line. -/
theorem exists_cut_of_lt_lineCount {n : Nat} (hn : n < d.lineCount) :
    ∃ before line after, Text.Cut d.text before line after ∧ before.count '\n' = n := by
  rw [lineCount_eq] at hn
  exact Text.exists_cut_of_le_count (by omega)

theorem count_lt_lineCount (h : Text.Cut d.text before line after) :
    before.count '\n' < d.lineCount := by
  rw [lineCount_eq, h.eq, List.count_append]
  omega

/-- The lines of a document are the pieces of its text between the line feeds, each without the
carriage return that ends it. -/
theorem lineText_of_getElem?_pieces {n : Nat} (h : (Text.pieces '\n' d.text)[n]? = some line) :
    n < d.lineCount ∧ d.lineText n = Text.dropReturn line := by
  obtain ⟨before, after, hcut, rfl⟩ := Text.exists_cut_of_getElem?_pieces h
  exact ⟨count_lt_lineCount hcut, lineText_of_cut hcut⟩

theorem line?_of_lt {n : Nat} (hn : n < d.lineCount) : d.line? n = .ok n := by
  rw [line?, if_pos ⟨by omega, by omega⟩, Int.toNat_natCast]

theorem lt_of_line? {n : Int} {m : Nat} (h : d.line? n = .ok m) : m < d.lineCount := by
  unfold line? at h
  split at h
  · have := Except.ok.inj h
    omega
  · cases h

end Document

end Gloss
