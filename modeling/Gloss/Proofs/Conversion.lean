import Gloss.Proofs.Position

/-! Offsets and positions of a document, converted into each other. A position leads back to the
offset that it was made of, unless a carriage return before the offset belongs to the line break; the
offset of a character of a line leads back to that character. Positions follow each other as their
offsets do. -/

namespace Gloss

/-- The order of positions: by line, and by character in a line. -/
def Position.Before (p q : Position) : Prop :=
  p.line < q.line ∨ p.line = q.line ∧ p.character < q.character

theorem Position.Before.asymm {p q : Position} (h : p.Before q) : ¬q.Before p := by
  unfold Before at *
  omega

theorem Position.not_before_self (p : Position) : ¬p.Before p := by
  unfold Before
  omega

namespace Text

/-- The offset `o` comes after the carriage return that ends a line, before the line feed or the end
of the text. -/
def AfterReturn (t : Text) (o : Nat) : Prop :=
  0 < o ∧ t[o - 1]? = some '\r' ∧ (o = t.length ∨ t[o]? = some '\n')

instance (t : Text) (o : Nat) : Decidable (t.AfterReturn o) :=
  inferInstanceAs (Decidable (_ ∧ _))

variable {t before line after : Text}

theorem length_le_dropReturn (t : Text) : t.length ≤ (dropReturn t).length + 1 := by
  unfold dropReturn
  split
  · simp
    omega
  · omega

theorem length_dropReturn_lt_iff {q : Nat} (hq : q ≤ t.length) :
    (dropReturn t).length < q ↔ q = t.length ∧ t.getLast? = some '\r' := by
  unfold dropReturn
  split
  · next hlast =>
    have : 0 < t.length := List.length_pos_of_ne_nil (by rintro rfl; simp at hlast)
    simp [hlast]
    omega
  · next hlast =>
    simp [hlast]
    omega

/-- An offset in a line comes after the return that ends the line exactly if the text of the line,
without that return, does not reach it. -/
theorem Cut.afterReturn_iff (h : Cut t before line after) {q : Nat} (hq : q ≤ line.length) :
    t.AfterReturn (before.length + q) ↔ (dropReturn line).length < q := by
  have hlen := congrArg List.length h.eq
  simp only [List.length_append] at hlen
  have hlast : 0 < line.length → t[before.length + line.length - 1]? = line.getLast? := by
    intro hpos
    rw [show before.length + line.length - 1 = before.length + (line.length - 1) by omega,
      h.getElem?, List.getElem?_append_left (by omega), List.getLast?_eq_getElem?]
  rw [length_dropReturn_lt_iff hq]
  constructor
  · rintro ⟨hpos, hreturn, hend⟩
    obtain rfl : q = line.length := by
      by_contra hne
      -- Before its end a line has neither a line feed nor the end of the text.
      rw [h.getElem?, List.getElem?_append_left (by omega)] at hend
      rcases hend with hend | hfeed
      · omega
      · exact h.no_feed (List.mem_of_getElem? hfeed)
    refine ⟨rfl, ?_⟩
    rcases Nat.eq_zero_or_pos line.length with hzero | hline
    · -- The character before an empty line is a line feed.
      rcases h.before_ends with rfl | ⟨front, rfl⟩
      · simp [hzero] at hpos
      · simp [h.eq, hzero] at hreturn
    · rw [← hlast hline]
      exact hreturn
  · rintro ⟨rfl, hreturn⟩
    have hline : 0 < line.length := List.length_pos_of_ne_nil (by rintro rfl; simp at hreturn)
    refine ⟨by omega, by rw [hlast hline, hreturn], ?_⟩
    rcases h.after_begins with rfl | ⟨back, rfl⟩
    · left
      simp [hlen]
    · right
      simp [h.getElem?]

end Text

namespace Document

variable {d : Document} {before line after : Text}

theorem offsetAt_of_cut (h : Text.Cut d.text before line after) (c : Int) :
    d.offsetAt (before.count '\n' : Nat) c =
      .ok (before.length + min c.toNat (Text.dropReturn line).length) := by
  unfold offsetAt
  rw [line?_of_lt (count_lt_lineCount h), ← lineText_of_cut h, ← startOf_of_cut h]
  rfl

/-- An offset within the text is a place in a line. -/
theorem exists_place {o : Nat} (ho : o ≤ d.text.length) :
    ∃ before line after q, Text.Cut d.text before line after ∧ q ≤ line.length ∧
      o = before.length + q ∧ d.positionAt o = ⟨before.count '\n', q⟩ := by
  obtain ⟨before, line, after, hcut, hlow, hhigh⟩ := Text.exists_cut ho
  obtain ⟨q, rfl⟩ : ∃ q, o = before.length + q := ⟨o - before.length, by omega⟩
  have hq : q ≤ line.length := by omega
  exact ⟨before, line, after, q, hcut, hq, rfl, positionAt_of_cut hcut hq⟩

/-- The line of an offset is the number of line feeds before it. -/
theorem line_positionAt {o : Nat} (ho : o ≤ d.text.length) :
    (d.positionAt o).line = (d.text.take o).count '\n' := by
  obtain ⟨before, line, after, q, hcut, hq, rfl, hplace⟩ := exists_place ho
  rw [hplace, hcut.count_take (by omega) (by omega)]

/-- The position is a place on a line of the document, at the end of its text at most. -/
def Holds (d : Document) (p : Position) : Prop :=
  p.line < d.lineCount ∧ p.character ≤ (d.lineText p.line).length

/-- The position of an offset leads back to the offset, or to the one before it if a carriage return
stands there that belongs to the line break. -/
theorem offsetAt_positionAt {o : Nat} (ho : o ≤ d.text.length) :
    d.offsetAt (d.positionAt o).line (d.positionAt o).character =
      .ok (if d.text.AfterReturn o then o - 1 else o) := by
  obtain ⟨before, line, after, q, hcut, hq, rfl, hplace⟩ := exists_place ho
  have hle := Text.length_le_dropReturn line
  rw [hplace]
  simp only [offsetAt_of_cut hcut, hcut.afterReturn_iff hq, Int.toNat_natCast]
  congr 1
  split <;> omega

theorem holds_positionAt {o : Nat} (ho : o ≤ d.text.length) (hreturn : ¬d.text.AfterReturn o) :
    d.Holds (d.positionAt o) := by
  obtain ⟨before, line, after, q, hcut, hq, rfl, hplace⟩ := exists_place ho
  rw [hcut.afterReturn_iff hq, Nat.not_lt] at hreturn
  rw [hplace]
  refine ⟨count_lt_lineCount hcut, ?_⟩
  show q ≤ (d.lineText (before.count '\n')).length
  rwa [lineText_of_cut hcut]

/-- The offset of a character of a line leads back to that character of that line, or to the nearest
end of the line. -/
theorem positionAt_offsetAt {n : Nat} (hn : n < d.lineCount) (c : Int) :
    ∃ line o, d.lineAt n = .ok line ∧ d.offsetAt n c = .ok o ∧ (d.positionAt o).line = n ∧
      ((d.positionAt o).character : Int) = max 0 (min c line.length) := by
  obtain ⟨before, line, after, hcut, rfl⟩ := exists_cut_of_lt_lineCount hn
  refine ⟨_, _, lineAt_of_cut hcut, offsetAt_of_cut hcut c, ?_⟩
  have hle := Text.length_dropReturn_le line
  rw [positionAt_of_cut hcut (by omega)]
  refine ⟨rfl, ?_⟩
  simp only
  omega

theorem positionAt_before {o o' : Nat} (h : o < o') (ho' : o' ≤ d.text.length) :
    (d.positionAt o).Before (d.positionAt o') := by
  obtain ⟨before, line, after, q, hcut, hq, rfl, hplace⟩ := exists_place (d := d) (o := o) (by omega)
  by_cases hsame : o' ≤ before.length + line.length
  · -- Both offsets lie in one line.
    obtain ⟨q', rfl⟩ : ∃ q', o' = before.length + q' := ⟨o' - before.length, by omega⟩
    rw [hplace, positionAt_of_cut hcut (by omega)]
    exact .inr ⟨rfl, show q < q' by omega⟩
  · -- The line feed that ends the line of the first stands between them.
    left
    rw [line_positionAt (by omega), line_positionAt ho', hcut.count_take (by omega) (by omega)]
    rcases hcut.after_begins with rfl | ⟨back, rfl⟩
    · have := congrArg List.length hcut.eq
      simp at this
      omega
    · have hfront : before ++ (line ++ ['\n']) <+: d.text.take o' := by
        rw [List.prefix_take_iff]
        refine ⟨⟨back, by simp [hcut.eq]⟩, ?_⟩
        simp
        omega
      have := hfront.sublist.count_le '\n'
      simp at this
      omega

theorem positionAt_of_nonpos {o : Int} (ho : o ≤ 0) : d.positionAt o = d.positionAt 0 := by
  rw [← positionAt_min d o, ← positionAt_min d 0, Int.toNat_of_nonpos ho]
  rfl

theorem positionAt_of_length_le {o : Int} (ho : d.text.length ≤ o) :
    d.positionAt o = d.positionAt d.text.length := by
  rw [← positionAt_min, show min o.toNat d.text.length = d.text.length by omega]

theorem not_before_rangeOf {a b : Int} (h : a ≤ b) :
    ¬(d.rangeOf a b).stop.Before (d.rangeOf a b).start := by
  unfold rangeOf
  rw [← positionAt_min d a, ← positionAt_min d b]
  have hle : min a.toNat d.text.length ≤ min b.toNat d.text.length := by omega
  rcases Nat.eq_or_lt_of_le hle with heq | hlt
  · rw [heq]
    exact Position.not_before_self _
  · exact (positionAt_before hlt (by omega)).asymm

end Document

/-- Offsets and positions of a document convert exactly. An offset within the text is the offset of
its position, except after a carriage return that ends a line, which takes it back by one. The offset
of any character of a line has the position of that character, brought into the line. Positions
strictly follow the offsets within the text and stay the same outside of it, so that a range never
stops before it starts. -/
theorem offsets_and_positions_convert (d : Document) :
    (∀ o ≤ d.text.length, d.offsetAt (d.positionAt o).line (d.positionAt o).character =
      .ok (if d.text.AfterReturn o then o - 1 else o)) ∧
    (∀ n < d.lineCount, ∀ c : Int, ∃ line o, d.lineAt n = .ok line ∧ d.offsetAt n c = .ok o ∧
      (d.positionAt o).line = n ∧
      ((d.positionAt o).character : Int) = max 0 (min c line.length)) ∧
    (∀ o o' : Nat, o < o' → o' ≤ d.text.length → (d.positionAt o).Before (d.positionAt o')) ∧
    (∀ o : Int, (o ≤ 0 → d.positionAt o = d.positionAt 0) ∧
      (d.text.length ≤ o → d.positionAt o = d.positionAt d.text.length)) ∧
    ∀ a b : Int, a ≤ b → ¬(d.rangeOf a b).stop.Before (d.rangeOf a b).start :=
  ⟨fun _ ho => Document.offsetAt_positionAt ho, fun _ hn c => Document.positionAt_offsetAt hn c,
    fun _ _ h ho' => Document.positionAt_before h ho',
    fun _ => ⟨Document.positionAt_of_nonpos, Document.positionAt_of_length_le⟩,
    fun _ _ h => Document.not_before_rangeOf h⟩

/-- A text with both kinds of line breaks, which ends with a carriage return: its first and its last
return take an offset back, and the one within a line does not. -/
theorem offsets_and_positions_convert_mixed :
    let d := Document.ofText ['a', '\r', '\n', '\r', 'b', '\n', '\r']
    let back (o : Nat) := d.offsetAt (d.positionAt o).line (d.positionAt o).character
    (2 ≤ d.text.length ∧ d.text.AfterReturn 2 ∧ back 2 = .ok 1) ∧
      (4 ≤ d.text.length ∧ ¬d.text.AfterReturn 4 ∧ back 4 = .ok 4) ∧
      (7 ≤ d.text.length ∧ d.text.AfterReturn 7 ∧ back 7 = .ok 6) ∧
      (1 < d.lineCount ∧ ∃ line o, d.lineAt (1 : Nat) = .ok line ∧
        d.offsetAt (1 : Nat) 9 = .ok o ∧ (d.positionAt o).line = 1 ∧
        ((d.positionAt o).character : Int) = max 0 (min 9 (line.length : Int))) ∧
      (5 < 6 ∧ 6 ≤ d.text.length ∧ (d.positionAt 5).Before (d.positionAt 6)) ∧
      ((-1 : Int) ≤ 0 ∧ d.positionAt (-1) = d.positionAt 0) ∧
      ((d.text.length : Int) ≤ 9 ∧ d.positionAt 9 = d.positionAt d.text.length) ∧
      (2 ≤ (3 : Int) ∧ ¬(d.rangeOf 2 3).stop.Before (d.rangeOf 2 3).start) := by
  intro d back
  obtain ⟨hback, hforth, hbefore, houtside, hrange⟩ := offsets_and_positions_convert d
  exact ⟨⟨by decide, by decide, hback 2 (by decide)⟩,
    ⟨by decide, by decide, hback 4 (by decide)⟩, ⟨by decide, by decide, hback 7 (by decide)⟩,
    ⟨by decide, hforth 1 (by decide) 9⟩,
    ⟨by decide, by decide, hbefore 5 6 (by decide) (by decide)⟩,
    ⟨by decide, (houtside (-1)).1 (by decide)⟩, ⟨by decide, (houtside 9).2 (by decide)⟩,
    by decide, hrange 2 3 (by decide)⟩

end Gloss
