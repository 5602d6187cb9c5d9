import Gloss.Proofs.Position

/-! The table of line starts of a document and what is read off it: where the lines start, how many
there are, the text of each, and the line of an offset. Each is told by the line feeds of the text
alone. -/

namespace Gloss

/-! ### The table -/

theorem startsAfterBreaks_eq (here : Nat) (t : Text) : startsAfterBreaks here t =
    ((List.range t.length).filter fun i => t[i]? = some '\n').map (here + · + 1) := by
  induction t generalizing here with
  | nil => rfl
  | cons c r ih =>
    have hrest : ((List.range r.length).map Nat.succ).filter
        (fun i => (c :: r)[i]? = some '\n') =
          ((List.range r.length).filter fun i => r[i]? = some '\n').map Nat.succ := by
      rw [List.filter_map]
      rfl
    have hshift : (fun i => here + i + 1) ∘ Nat.succ = fun i => here + 1 + i + 1 := by
      funext i
      simp only [Function.comp_apply]
      omega
    rw [List.length_cons, List.range_succ_eq_map, List.filter_cons, hrest]
    by_cases hc : c = '\n'
    · rw [startsAfterBreaks, if_pos hc, if_pos (by simp [hc]), List.map_cons, List.map_map, hshift,
        ih, Nat.add_zero]
    · rw [startsAfterBreaks, if_neg hc, if_neg (by simp [hc]), List.map_map, hshift, ih]

/-- The lines start at 0 and after each line feed. -/
theorem lineTable_eq (t : Text) : lineTable t =
    0 :: ((List.range t.length).filter fun i => t[i]? = some '\n').map (· + 1) := by
  rw [lineTable, startsAfterBreaks_eq]
  simp only [Nat.zero_add]

theorem pairwise_lineTable (t : Text) : (lineTable t).Pairwise (· < ·) := by
  rw [lineTable_eq, List.pairwise_cons]
  constructor
  · intro x hx
    obtain ⟨i, -, rfl⟩ := List.mem_map.mp hx
    exact Nat.succ_pos i
  · rw [List.pairwise_map]
    exact (List.pairwise_lt_range.filter _).imp Nat.succ_lt_succ

theorem le_length_of_mem_lineTable {t : Text} {x : Nat} (hx : x ∈ lineTable t) : x ≤ t.length := by
  rcases List.mem_cons.mp hx with rfl | hx
  · exact Nat.zero_le _
  · have := bounds_of_mem_startsAfterBreaks hx
    omega

/-! ### Lines and offsets -/

namespace Document

variable {d : Document} {n : Int} {line : Text}

theorem lineAt_eq_error_iff {e : PositionError} : d.lineAt n = .error e ↔
    (n < 0 ∨ (d.lineCount : Int) ≤ n) ∧ e = ⟨n, d.lineCount⟩ := by
  unfold lineAt line?
  split
  · exact iff_of_false (by simp [bind, Except.bind, pure, Except.pure]) (by omega)
  · next hout =>
    have hout : n < 0 ∨ (d.lineCount : Int) ≤ n := by omega
    simp [bind, Except.bind, hout, eq_comm]

/-- The text of a line is the piece of its number between the line feeds, without the carriage
return that ends it. -/
theorem lineAt_eq_ok_iff : d.lineAt n = .ok line ↔ 0 ≤ n ∧
    ∃ piece, (Text.pieces '\n' d.text)[n.toNat]? = some piece ∧ line = Text.dropReturn piece := by
  constructor
  · intro h
    have hin : ¬(n < 0 ∨ (d.lineCount : Int) ≤ n) := by
      intro hout
      rw [lineAt_eq_error_iff.mpr ⟨hout, rfl⟩] at h
      cases h
    obtain ⟨m, rfl⟩ := Int.eq_ofNat_of_zero_le (show 0 ≤ n by omega)
    obtain ⟨before, piece, after, hcut, rfl⟩ :=
      exists_cut_of_lt_lineCount (d := d) (n := m) (by omega)
    refine ⟨Int.natCast_nonneg _, piece, hcut.getElem?_pieces, ?_⟩
    exact Except.ok.inj (h.symm.trans (lineAt_of_cut hcut))
  · rintro ⟨hn, piece, hpiece, rfl⟩
    obtain ⟨m, rfl⟩ := Int.eq_ofNat_of_zero_le hn
    obtain ⟨before, after, hcut, rfl⟩ := Text.exists_cut_of_getElem?_pieces hpiece
    exact lineAt_of_cut hcut

/-- The search for an offset within the text counts one line more than there are line feeds before
it. -/
theorem upperBound_starts {o : Nat} (ho : o ≤ d.text.length) :
    upperBound d.starts o 0 d.starts.size (Nat.le_refl _) = (d.text.take o).count '\n' + 1 := by
  obtain ⟨before, line, after, hcut, hlow, hhigh⟩ := Text.exists_cut ho
  obtain ⟨q, rfl⟩ : ∃ q, o = before.length + q := ⟨o - before.length, by omega⟩
  rw [upperBound_of_cut hcut (by omega), hcut.count_take hlow hhigh]

/-- The table of a text holds 0 and what follows each line feed, in order and within the text, so
that there is one line more than there are line feeds. A line is asked for in vain exactly if its
number is negative or there are not so many lines; any other is the piece of that number between the
line feeds, without a carriage return that ends it. For every offset, brought into the text, the
search in the table counts at least one line and tells how many line feeds stand before the
offset. -/
theorem table_locates_lines (t : Text) :
    let d := Document.ofText t
    d.starts.toList =
      0 :: ((List.range t.length).filter fun i => t[i]? = some '\n').map (· + 1) ∧
    d.starts.toList.Pairwise (· < ·) ∧ (∀ x ∈ d.starts.toList, x ≤ t.length) ∧
    d.lineCount = t.count '\n' + 1 ∧
    (∀ n e, d.lineAt n = .error e ↔
      (n < 0 ∨ (d.lineCount : Int) ≤ n) ∧ e = ⟨n, d.lineCount⟩) ∧
    (∀ n line, d.lineAt n = .ok line ↔ 0 ≤ n ∧
      ∃ piece, (Text.pieces '\n' t)[n.toNat]? = some piece ∧ line = Text.dropReturn piece) ∧
    ∀ o : Int, let here := (max 0 (min o t.length)).toNat
      let found := upperBound d.starts here 0 d.starts.size (Nat.le_refl _)
      1 ≤ found ∧ found - 1 = (t.take here).count '\n' ∧ (d.positionAt o).line = found - 1 := by
  intro d
  refine ⟨lineTable_eq t, pairwise_lineTable t, fun x => le_length_of_mem_lineTable, lineCount_eq d,
    fun n e => lineAt_eq_error_iff, fun n line => lineAt_eq_ok_iff, fun o => ?_⟩
  intro here found
  have hhere : min o.toNat t.length = here := by omega
  have hfound : found = (t.take here).count '\n' + 1 :=
    upperBound_starts (d := d) (show here ≤ t.length by omega)
  have hline : (d.positionAt o).line = found - 1 := by
    show upperBound d.starts (min o.toNat t.length) 0 d.starts.size _ - 1 = _
    simp only [hhere, found]
  exact ⟨by omega, by omega, hline⟩

/-- A text with an empty line between two that end with a carriage return, and an offset at the very
start of a line. -/
theorem table_locates_lines_returns :
    let t : Text := ['a', '\r', '\n', '\n', 'b', '\r']
    let d := Document.ofText t
    (4 ∈ d.starts.toList ∧ 4 ≤ t.length) ∧ d.lineCount = 3 ∧ d.lineAt 0 = .ok ['a'] ∧
      d.lineAt 1 = .ok [] ∧ d.lineAt 2 = .ok ['b'] ∧ d.lineAt 3 = .error ⟨3, 3⟩ ∧
      d.lineAt (-1) = .error ⟨-1, 3⟩ ∧ (d.positionAt 4).line = (t.take 4).count '\n' := by
  intro t d
  obtain ⟨htable, -, hle, hcount, herror, hline, hsearch⟩ := table_locates_lines t
  have hmem : 4 ∈ d.starts.toList := by
    rw [htable]
    decide
  obtain ⟨-, hfeeds, hposition⟩ := hsearch 4
  exact ⟨⟨hmem, hle 4 hmem⟩, hcount, (hline 0 _).mpr ⟨by decide, _, rfl, rfl⟩,
    (hline 1 _).mpr ⟨by decide, _, rfl, rfl⟩, (hline 2 _).mpr ⟨by decide, _, rfl, rfl⟩,
    (herror 3 _).mpr ⟨.inr (by decide), rfl⟩, (herror (-1) _).mpr ⟨.inl (by decide), rfl⟩,
    hposition.trans hfeeds⟩

end Document

end Gloss
