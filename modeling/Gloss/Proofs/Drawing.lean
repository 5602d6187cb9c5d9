import Gloss.Proofs.Fallible
import Gloss.Terminal.Table

/-! Drawing text with styles. What is cut from a text, or made of it, has no other styles, so that a
text, or a table, of which all colors can be read is drawn. -/

namespace Gloss.Terminal

namespace Marked

/-! ### Styles -/

/-- Every style in `m'` is one of `m`. -/
def StylesFrom (m' m : Marked) : Prop :=
  ∀ s ∈ m'.stretches, ∃ s' ∈ m.stretches, s'.style = s.style

namespace StylesFrom

theorem refl (m : Marked) : m.StylesFrom m :=
  fun s hs => ⟨s, hs, rfl⟩

theorem trans {a b c : Marked} (hab : a.StylesFrom b) (hbc : b.StylesFrom c) : a.StylesFrom c := by
  intro s hs
  obtain ⟨s', hs', heq⟩ := hab s hs
  obtain ⟨s'', hs'', heq'⟩ := hbc s' hs'
  exact ⟨s'', hs'', heq'.trans heq⟩

/-- A text has no styles but those of the stretches that it is made of. -/
theorem of_filterMap {m : Marked} {t : Text} {f : Stretch → Option Stretch}
    (h : ∀ s s', f s = some s' → s'.style = s.style) :
    StylesFrom ⟨t, m.stretches.filterMap f⟩ m := by
  intro s hs
  obtain ⟨s', hs', hf⟩ := List.mem_filterMap.mp hs
  exact ⟨s', hs', (h s' s hf).symm⟩

theorem check {m m' : Marked} (h : m'.StylesFrom m) (hm : m.check = .ok ()) :
    m'.check = .ok () := by
  have hall := forM_eq_ok_iff.mp hm
  apply forM_eq_ok_iff.mpr
  intro s hs
  obtain ⟨s', hs', heq⟩ := h s hs
  rw [← heq]
  exact hall s' hs'

end StylesFrom

section Change

variable {m : Marked}

theorem slice_stylesFrom (m : Marked) (start stop : Nat) : (m.slice start stop).StylesFrom m := by
  apply StylesFrom.of_filterMap
  intro s s' h
  simp only [Stretch.within?] at h
  split at h
  · rw [← Option.some.inj h]
  · cases h

theorem changeEnd_stylesFrom (f : Text → Text) (m : Marked) : (m.changeEnd f).StylesFrom m := by
  simp only [changeEnd]
  split
  · apply StylesFrom.of_filterMap
    intro s s' h
    simp only [Stretch.shorten?] at h
    split at h
    · rw [← Option.some.inj h]
    · cases h
  · exact StylesFrom.refl m

theorem indent_stylesFrom (n : Nat) (m : Marked) : (m.indent n).StylesFrom m := by
  intro s hs
  obtain ⟨s', hs', rfl⟩ := List.mem_map.mp hs
  exact ⟨s', hs', rfl⟩

theorem slicesFrom_stylesFrom {gap start : Nat} {pieces : List Text} :
    ∀ p ∈ m.slicesFrom gap start pieces, p.StylesFrom m := by
  induction pieces generalizing start with
  | nil => exact List.forall_mem_nil _
  | cons piece pieces ih =>
    exact List.forall_mem_cons.mpr ⟨m.slice_stylesFrom start _, ih⟩

theorem cut_stylesFrom {gap : Nat} {pieces : List Text} :
    ∀ p ∈ m.cut gap pieces, p.StylesFrom m := by
  rw [cut.eq_def]
  split
  · exact List.forall_mem_singleton.mpr (StylesFrom.refl m)
  · exact slicesFrom_stylesFrom

theorem wrap_stylesFrom {fold : Bool} {limit : Nat} :
    ∀ line ∈ wrap fold limit m, line.StylesFrom m := by
  intro line hline
  obtain ⟨whole, hwhole, hline⟩ := List.mem_flatMap.mp hline
  obtain ⟨part, hpart, rfl⟩ := List.mem_map.mp hline
  have hcut := (cut_stylesFrom part hpart).trans (cut_stylesFrom whole hwhole)
  exact (changeEnd_stylesFrom _ part).trans hcut

theorem centre_stylesFrom (limit : Nat) (m : Marked) : (centre limit m).StylesFrom m :=
  (indent_stylesFrom _ _).trans ((changeEnd_stylesFrom _ _).trans (changeEnd_stylesFrom _ m))

theorem setLine_stylesFrom (toRight : Bool) (limit : Nat) (m : Marked) :
    (setLine toRight limit m).StylesFrom m := by
  rw [setLine]
  split
  · exact (indent_stylesFrom _ _).trans ((changeEnd_stylesFrom _ _).trans (changeEnd_stylesFrom _ m))
  · exact changeEnd_stylesFrom _ m

end Change

/-- A text of one style is drawn if that can be read. -/
theorem check_of_styles {m : Marked} {style : Text} {read : Style}
    (h : ∀ s ∈ m.stretches, s.style = some style) (hread : Style.ofText style = .ok read) :
    m.check = .ok () := by
  apply forM_eq_ok_iff.mpr
  intro s hs
  rw [h s hs, Option.map_some, hread]

end Marked

/-! ### Lines and tables -/

theorem exists_drawLines (limit : Nat) {m : Marked} (h : m.check = .ok ()) :
    ∃ lines, drawLines limit m = .ok lines := by
  apply exists_mapM_iff.mpr
  intro line hline
  have hstyles := (Marked.changeEnd_stylesFrom (truncate [] limit) line).trans
    (Marked.wrap_stylesFrom line hline)
  simp only [hstyles.check h]
  exact ⟨_, rfl⟩

theorem exists_titleLines (limit : Nat) {title : Marked} (h : title.check = .ok ()) :
    ∃ lines, titleLines limit title = .ok lines := by
  apply exists_mapM_iff.mpr
  intro line hline
  have hstyles := (Marked.centre_stylesFrom limit line).trans (Marked.wrap_stylesFrom line hline)
  simp only [hstyles.check h]
  exact ⟨_, rfl⟩

theorem exists_cellLines (column : Column × Nat) {cell : Marked} (h : cell.check = .ok ()) :
    ∃ lines, cellLines column cell = .ok lines := by
  apply exists_mapM_iff.mpr
  intro line hline
  have hstyles := (Marked.setLine_stylesFrom column.1.toRight column.2 line).trans
    (Marked.wrap_stylesFrom line hline)
  simp only [hstyles.check h]
  exact ⟨_, rfl⟩

theorem exists_rowLines (bar : Char) (columns : List (Column × Nat)) {cells : List Marked}
    (h : ∀ cell ∈ cells, cell.check = .ok ()) :
    ∃ lines, rowLines bar columns cells = .ok lines := by
  have hsplit : ∃ split, (columns.zip cells).mapM (fun x => cellLines x.1 x.2) = .ok split := by
    apply exists_mapM_iff.mpr
    intro x hx
    exact exists_cellLines x.1 (h x.2 (List.of_mem_zip hx).2)
  obtain ⟨split, hsplit⟩ := hsplit
  rw [rowLines]
  exact ⟨_, bind_eq_ok_iff.mpr ⟨split, hsplit, rfl⟩⟩

/-- A table is drawn if the colors in its title and in its cells can be read. -/
theorem Table.exists_lines (limit : Nat) {t : Table} (htitle : t.title.check = .ok ())
    (hrows : ∀ row ∈ t.rows, ∀ cell ∈ row, cell.check = .ok ()) :
    ∃ lines, t.lines limit = .ok lines := by
  let columns := t.columns.zip (t.widths limit)
  have hheads : ∀ cell ∈ t.columns.map fun c => Marked.plain c.head, cell.check = .ok () := by
    intro cell hcell
    obtain ⟨c, -, rfl⟩ := List.mem_map.mp hcell
    exact Marked.check_plain c.head
  obtain ⟨title, htitle⟩ := exists_titleLines
    (rule ⟨'┏', '━', '┳', '┓'⟩ (t.widths limit)).length htitle
  obtain ⟨head, hhead⟩ := exists_rowLines '┃' columns hheads
  obtain ⟨rows, hrows⟩ := exists_mapM_iff.mpr fun row hrow =>
    exists_rowLines '│' columns (hrows row hrow)
  rw [Table.lines]
  simp only [htitle, hhead, hrows, columns]
  exact ⟨_, rfl⟩

end Gloss.Terminal
