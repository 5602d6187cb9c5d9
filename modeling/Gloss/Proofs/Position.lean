import Gloss.Proofs.Document

/-! Places in a text, found in two ways: by the line around an offset, which reads the text on both
sides of it, and by the position of the offset in a document, which searches the table of line
starts. Both lead to the same line. -/

namespace Gloss

namespace Text

variable {n : Nat} {o : Int}

theorem place_of_nonneg (ho : 0 ≤ o) : place n o = min o.toNat n := by
  unfold place
  rw [if_neg (by omega)]

theorem place_of_neg (ho : o < 0) : place n o = place n (max 0 (n + o)) := by
  unfold place
  rw [if_pos ho, if_neg (by omega)]
  omega

theorem place_place (n : Nat) (o : Int) : place n (place n o : Nat) = place n o := by
  have hle := place_le n o
  rw [place_of_nonneg (Int.natCast_nonneg _), Int.toNat_natCast]
  omega

end Text

theorem LineSpan.around_congr {t : Text} {o o' : Int}
    (h : Text.place t.length o = Text.place t.length o') :
    LineSpan.around t o = LineSpan.around t o' := by
  unfold LineSpan.around
  rw [h]

theorem Document.positionAt_min (d : Document) (o : Int) :
    d.positionAt (min o.toNat d.text.length : Nat) = d.positionAt o := by
  unfold Document.positionAt
  simp only [Int.toNat_natCast, Nat.min_assoc, Nat.min_self]

theorem Document.lineAt_of_cut {d : Document} {before line after : Text}
    (h : Text.Cut d.text before line after) :
    d.lineAt (before.count '\n' : Nat) = .ok (Text.dropReturn line) := by
  unfold Document.lineAt
  rw [Document.line?_of_lt (Document.count_lt_lineCount h), ← Document.lineText_of_cut h]
  rfl

/-- The line around an offset of a text is the line of the position that a document of the text
gives the offset: they agree on its number, on its start and on its text, and an offset past the end
counts as the end. A negative offset counts from the end of the text, and none lies before its
start. -/
theorem locators_agree (t : Text) (o : Int) :
    (0 ≤ o →
      let s := LineSpan.around t o
      let d := Document.ofText t
      let p := d.positionAt o
      s.line = p.line ∧ (s.start : Int) = min o t.length - p.character ∧
        d.lineAt p.line = .ok (t.slice s.start s.stop) ∧ s.start ≤ s.stop ∧
        s.stop ≤ t.length) ∧
    (o < 0 → LineSpan.around t o = LineSpan.around t (max 0 (t.length + o))) := by
  refine ⟨fun ho => ?_, fun ho => LineSpan.around_congr (Text.place_of_neg ho)⟩
  intro s d p
  -- Both depend on the offset only through the place that it names in the text.
  have hplace := Text.place_of_nonneg (n := t.length) ho
  generalize hi : min o.toNat t.length = i at hplace
  obtain ⟨before, line, after, hcut, hlow, hhigh⟩ :=
    Text.exists_cut (t := t) (i := i) (by omega)
  have hs : s = ⟨before.count '\n', before.length,
      before.length + (Text.dropReturn line).length⟩ := by
    rw [← LineSpan.around_of_cut hcut hlow hhigh]
    apply LineSpan.around_congr
    rw [← hplace, Text.place_place]
  have hp : p = ⟨before.count '\n', i - before.length⟩ := by
    have hposition := Document.positionAt_of_cut (d := d) hcut
      (show i - before.length ≤ line.length by omega)
    rw [Nat.add_sub_cancel' hlow, ← hi] at hposition
    rw [← hi, ← hposition]
    exact (d.positionAt_min o).symm
  have hline : d.lineAt (before.count '\n' : Nat) = .ok (Text.dropReturn line) :=
    Document.lineAt_of_cut hcut
  have hdrop := Text.length_dropReturn_le line
  have hend := hcut.length_le
  rw [hs, hp]
  simp only
  refine ⟨trivial, by omega, ?_, by omega, by omega⟩
  rw [hcut.slice_dropReturn]
  exact hline

/-- An offset past the end of a text whose last line ends with a carriage return, and one that counts
from the end. -/
theorem locators_agree_mixed :
    let t : Text := ['a', '\r', '\n', 'b', '\r', 'c', '\r']
    let d := Document.ofText t
    (0 ≤ (9 : Int) ∧ LineSpan.around t 9 = ⟨1, 3, 6⟩ ∧
      (LineSpan.around t 9).line = (d.positionAt 9).line ∧
      d.lineAt (d.positionAt 9).line = .ok (t.slice 3 6)) ∧
    (-5 < (0 : Int) ∧ LineSpan.around t (-5) = LineSpan.around t 2) := by
  intro t d
  obtain ⟨hline, -, htext, -⟩ := (locators_agree t 9).1 (by decide)
  exact ⟨⟨by decide, by decide, hline, htext⟩, by decide, (locators_agree t (-5)).2 (by decide)⟩

end Gloss
