import Mathlib.Data.List.Basic
import Mathlib.Data.List.TakeWhile
import Gloss.Text.Blank

/-! Slices of a text, the pieces between its separators, and what trimming leaves of it: a stretch
whose ends are outside the trimmed class. Texts with such ends are the ones that trimming leaves as
they are. -/

namespace Gloss.Text

/-! ### Slices -/

theorem slice_append (a b c : Text) : (a ++ (b ++ c)).slice a.length (a.length + b.length) = b := by
  rw [slice, ← List.append_assoc, ← List.length_append, List.take_left, List.drop_left]

theorem drop_eq_cons {t : Text} {n : Nat} {c : Char} (h : t[n]? = some c) :
    t.drop n = c :: t.drop (n + 1) := by
  obtain ⟨hn, rfl⟩ := List.getElem?_eq_some_iff.mp h
  exact List.drop_eq_getElem_cons hn

theorem eq_take_append_cons {t : Text} {n : Nat} {c : Char} (h : t[n]? = some c) :
    t = t.take n ++ c :: t.drop (n + 1) := by
  rw [← drop_eq_cons h, List.take_append_drop]

/-! ### Pieces and joins -/

theorem pieces_of_not_mem {sep : Char} {t : Text} (h : sep ∉ t) : pieces sep t = [t] := by
  induction t with
  | nil => rfl
  | cons c r ih =>
    obtain ⟨hc, hr⟩ := not_or.mp (mt List.mem_cons.mpr h)
    rw [pieces, if_neg (Ne.symm hc), ih hr]

/-- The pieces before a separator and those after it. -/
theorem pieces_append_cons (sep : Char) (t s : Text) :
    pieces sep (t ++ sep :: s) = pieces sep t ++ pieces sep s := by
  induction t with
  | nil => simp [pieces]
  | cons c r ih =>
    by_cases hc : c = sep
    · rw [List.cons_append, pieces, if_pos hc, ih, pieces, if_pos hc, List.cons_append]
    · obtain ⟨p, ps, hps⟩ := List.exists_cons_of_ne_nil (pieces_ne_nil sep r)
      rw [List.cons_append, pieces, if_neg hc, ih, pieces, if_neg hc, hps]
      rfl

/-- No piece holds the separator. -/
theorem not_mem_of_mem_pieces {sep : Char} {t p : Text} (h : p ∈ pieces sep t) : sep ∉ p := by
  induction t generalizing p with
  | nil =>
    obtain rfl := List.mem_singleton.mp h
    exact List.not_mem_nil
  | cons c r ih =>
    by_cases hc : c = sep
    · rw [pieces, if_pos hc] at h
      obtain rfl | h := List.mem_cons.mp h
      · exact List.not_mem_nil
      · exact ih h
    · obtain ⟨q, qs, hqs⟩ := List.exists_cons_of_ne_nil (pieces_ne_nil sep r)
      rw [pieces, if_neg hc, hqs] at h
      rw [hqs] at ih
      obtain rfl | h := List.mem_cons.mp h
      · rw [List.mem_cons, not_or]
        exact ⟨Ne.symm hc, ih List.mem_cons_self⟩
      · exact ih (List.mem_cons_of_mem q h)

/-- Pieces without the separator are read back from the text that joins them. -/
theorem pieces_join {sep : Char} {ps : List Text} (hne : ps ≠ []) (h : ∀ p ∈ ps, sep ∉ p) :
    pieces sep (join [sep] ps) = ps := by
  induction ps with
  | nil => exact absurd rfl hne
  | cons p ps ih =>
    obtain ⟨hp, hps⟩ := List.forall_mem_cons.mp h
    cases ps with
    | nil => exact pieces_of_not_mem hp
    | cons q qs =>
      rw [join, List.append_assoc, List.singleton_append, pieces_append_cons,
        pieces_of_not_mem hp, ih (List.cons_ne_nil q qs) hps, List.singleton_append]

theorem mem_of_mem_pieces {sep : Char} {t p : Text} (hp : p ∈ pieces sep t) : p ⊆ t := by
  induction t generalizing p with
  | nil =>
    obtain rfl := List.mem_singleton.mp hp
    exact List.Subset.refl _
  | cons c r ih =>
    rw [pieces] at hp
    split at hp
    · obtain rfl | hp := List.mem_cons.mp hp
      · exact List.nil_subset _
      · exact List.subset_cons_of_subset c (ih hp)
    · obtain ⟨q, qs, hqs⟩ := List.exists_cons_of_ne_nil (pieces_ne_nil sep r)
      rw [hqs] at hp ih
      obtain rfl | hp := List.mem_cons.mp hp
      · exact List.cons_subset_cons c (ih List.mem_cons_self)
      · exact List.subset_cons_of_subset c (ih (List.mem_cons_of_mem q hp))

theorem head?_join {sep p : Text} (hp : p ≠ []) (ps : List Text) :
    (join sep (p :: ps)).head? = p.head? := by
  cases ps with
  | nil => rfl
  | cons q qs => rw [join, List.append_assoc, List.head?_append_of_ne_nil _ hp]

theorem join_append (sep : Text) {ps qs : List Text} (hps : ps ≠ []) (hqs : qs ≠ []) :
    join sep (ps ++ qs) = join sep ps ++ sep ++ join sep qs := by
  induction ps with
  | nil => exact absurd rfl hps
  | cons p ps ih =>
    cases ps with
    | nil =>
      obtain ⟨q, qs, rfl⟩ := List.exists_cons_of_ne_nil hqs
      rfl
    | cons p' ps =>
      rw [List.cons_append, List.cons_append, join, ← List.cons_append,
        ih (List.cons_ne_nil p' ps), join]
      simp only [List.append_assoc]

theorem infix_join {p : Text} {ps : List Text} (sep : Text) (h : p ∈ ps) : p <:+: join sep ps := by
  induction ps with
  | nil => cases h
  | cons q qs ih =>
    cases qs with
    | nil =>
      obtain rfl := List.mem_singleton.mp h
      exact List.infix_rfl
    | cons r rs =>
      rw [join, List.append_assoc]
      obtain rfl | h := List.mem_cons.mp h
      · exact (List.prefix_append _ _).isInfix
      · exact (ih h).trans ⟨q ++ sep, [], by simp⟩

theorem length_le_length_join (sep : Text) {ps : List Text} (h : ∀ p ∈ ps, p ≠ []) :
    ps.length ≤ (join sep ps).length := by
  induction ps with
  | nil => exact Nat.zero_le _
  | cons p ps ih =>
    obtain ⟨hp, hps⟩ := List.forall_mem_cons.mp h
    have hlength := List.length_pos_of_ne_nil hp
    cases ps with
    | nil => exact hlength
    | cons q qs =>
      have := ih hps
      rw [join, List.length_cons, List.length_append, List.length_append]
      omega

/-- Of joined pieces without the separator, the ones that a text with it begins with are those of the
text. -/
theorem append_sep_prefix_join_iff {sep : Char} {t : Text} {qs : List Text} (hqs : qs ≠ [])
    (hfree : ∀ q ∈ qs, sep ∉ q) :
    t ++ [sep] <+: join [sep] qs ↔ ∃ rest, rest ≠ [] ∧ qs = pieces sep t ++ rest := by
  constructor
  · rintro ⟨s, hs⟩
    refine ⟨pieces sep s, pieces_ne_nil sep s, ?_⟩
    rw [← pieces_join hqs hfree, ← hs, List.append_assoc, List.singleton_append,
      pieces_append_cons]
  · rintro ⟨rest, hrest, rfl⟩
    rw [join_append _ (pieces_ne_nil sep t) hrest, join_pieces]
    exact List.prefix_append _ _

/-! ### Stretches without a character -/

theorem takeWhile_ne_append {c : Char} {t : Text} (h : c ∉ t) (s : Text) :
    (t ++ s).takeWhile (· ≠ c) = t ++ s.takeWhile (· ≠ c) := by
  apply List.takeWhile_append_of_pos
  intro d hd
  simpa using fun heq : d = c => h (heq ▸ hd)

theorem dropWhile_ne_append {c : Char} {t : Text} (h : c ∉ t) (s : Text) :
    (t ++ s).dropWhile (· ≠ c) = s.dropWhile (· ≠ c) := by
  apply List.dropWhile_append_of_pos
  intro d hd
  simpa using fun heq : d = c => h (heq ▸ hd)

/-! ### Digits -/

theorem ofNat_eq_toDigits (n : Nat) : ofNat n = Nat.toDigits 10 n :=
  Nat.toList_repr

theorem ofInt_negSucc (n : Nat) : ofInt (.negSucc n) = '-' :: ofNat (n + 1) := by
  change ("-" ++ Nat.repr (n + 1)).toList = _
  rw [String.toList_append]
  rfl

theorem isDigit_of_mem_ofNat {c : Char} {n : Nat} (h : c ∈ ofNat n) : c.isDigit = true := by
  rw [ofNat_eq_toDigits] at h
  exact Nat.isDigit_of_mem_toDigits (by decide) (by decide) h

theorem ofNat_ne_nil (n : Nat) : ofNat n ≠ [] := by
  rw [ofNat_eq_toDigits]
  exact Nat.toDigits_ne_nil

theorem ofInt_ne_nil (n : Int) : ofInt n ≠ [] := by
  cases n with
  | ofNat n => exact ofNat_ne_nil n
  | negSucc n =>
    rw [ofInt_negSucc]
    exact List.cons_ne_nil _ _

theorem not_mem_ofNat {c : Char} (hc : c.isDigit = false) (n : Nat) : c ∉ ofNat n := by
  intro h
  rw [isDigit_of_mem_ofNat h] at hc
  cases hc

theorem not_mem_ofInt {c : Char} (hc : c.isDigit = false) (hminus : c ≠ '-') (n : Int) :
    c ∉ ofInt n := by
  cases n with
  | ofNat n => exact not_mem_ofNat hc n
  | negSucc n =>
    rw [ofInt_negSucc, List.mem_cons, not_or]
    exact ⟨hminus, not_mem_ofNat hc (n + 1)⟩

/-! ### Trimming -/

variable {p : Char → Bool} {t : Text}

theorem trimBy_prefix_dropWhile (p : Char → Bool) (t : Text) : t.trimBy p <+: t.dropWhile p := by
  have := List.dropWhile_suffix p (l := (t.dropWhile p).reverse)
  simpa [trimBy] using List.reverse_prefix.mpr this

theorem trimBy_infix (p : Char → Bool) (t : Text) : t.trimBy p <:+: t :=
  (trimBy_prefix_dropWhile p t).isInfix.trans (List.dropWhile_suffix p).isInfix

theorem not_of_head?_dropWhile {c : Char} (h : (t.dropWhile p).head? = some c) : p c = false := by
  obtain ⟨r, hr⟩ := List.head?_eq_some_iff.mp h
  exact not_of_dropWhile hr

theorem not_of_getLast?_trimBy {c : Char} (h : (t.trimBy p).getLast? = some c) : p c = false := by
  rw [trimBy, List.getLast?_reverse] at h
  exact not_of_head?_dropWhile h

theorem not_of_head?_trimBy {c : Char} (h : (t.trimBy p).head? = some c) : p c = false := by
  -- Trimming the end keeps the first character that trimming the start left.
  obtain ⟨rest, hrest⟩ := trimBy_prefix_dropWhile p t
  apply not_of_head?_dropWhile (t := t)
  rw [← hrest, List.head?_append, h]
  rfl

theorem dropWhile_eq_self (h : ∀ c, t.head? = some c → p c = false) : t.dropWhile p = t := by
  cases t with
  | nil => rfl
  | cons c r => rw [List.dropWhile_cons, h c rfl]; rfl

theorem trimBy_eq_self (hhead : ∀ c, t.head? = some c → p c = false)
    (hlast : ∀ c, t.getLast? = some c → p c = false) : t.trimBy p = t := by
  rw [trimBy, dropWhile_eq_self hhead, dropWhile_eq_self, List.reverse_reverse]
  intro c hc
  rw [List.head?_reverse] at hc
  exact hlast c hc

theorem trimBy_eq_nil_iff : t.trimBy p = [] ↔ ∀ c ∈ t, p c = true := by
  rw [trimBy, List.reverse_eq_nil_iff, List.dropWhile_eq_nil_iff]
  simp only [List.mem_reverse]
  constructor
  · intro h
    cases hrest : t.dropWhile p with
    | nil => exact List.dropWhile_eq_nil_iff.mp hrest
    | cons c rest =>
      have hpos : p c = true := h c (hrest ▸ List.mem_cons_self)
      rw [not_of_dropWhile hrest] at hpos
      cases hpos
  · exact fun h c hc => h c ((List.dropWhile_suffix p).subset hc)

theorem trimBy_append_of_all {s : Text} (hs : ∀ c ∈ s, p c = true) (t : Text) :
    (t ++ s).trimBy p = t.trimBy p := by
  unfold trimBy
  rw [List.dropWhile_append]
  split
  · next hnil =>
    have hnone : s.dropWhile p = [] := List.dropWhile_eq_nil_iff.mpr hs
    rw [hnone, List.isEmpty_iff.mp hnil]
  · rw [List.reverse_append, List.dropWhile_append_of_pos (by simpa using hs)]

/-- A text that is not empty, with neither white space nor a byte order mark at its ends. -/
structure Trimmed (t : Text) : Prop where
  ne_nil : t ≠ []
  head : ∀ c, t.head? = some c → isPadding c = false
  last : ∀ c, t.getLast? = some c → isPadding c = false

theorem trimmed_iff : Trimmed t ↔ t ≠ [] ∧ t.head?.all (!isPadding ·) = true ∧
    t.getLast?.all (!isPadding ·) = true := by
  simp only [Option.all_eq_true, Bool.not_eq_true']
  exact ⟨fun h => ⟨h.ne_nil, h.head, h.last⟩, fun h => ⟨h.1, h.2.1, h.2.2⟩⟩

instance (t : Text) : Decidable (Trimmed t) :=
  decidable_of_iff _ trimmed_iff.symm

theorem Trimmed.trim_eq (h : Trimmed t) : t.trim = t :=
  trimBy_eq_self h.head h.last

theorem trimmed_trim (h : t.trim ≠ []) : Trimmed t.trim :=
  ⟨h, fun _ hc => not_of_head?_trimBy hc, fun _ hc => not_of_getLast?_trimBy hc⟩

theorem trim_infix (t : Text) : t.trim <:+: t :=
  trimBy_infix isPadding t

end Gloss.Text
