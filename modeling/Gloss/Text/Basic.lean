/-! Text as the list of its characters, so that every offset, column and length in the library is a
position in that list. -/

namespace Gloss

/-- A text is the list of its characters. -/
abbrev Text := List Char

namespace Text

/-- The characters from `start` up to, and without, `stop`. -/
def slice (t : Text) (start stop : Nat) : Text :=
  (t.take stop).drop start

/-- The pieces of a text between the occurrences of `sep`: always one more than there are of
those. -/
def pieces (sep : Char) : Text → List Text
  | [] => [[]]
  | c :: r =>
    if c = sep then [] :: pieces sep r
    else
      match pieces sep r with
      | [] => [[c]]
      | p :: ps => (c :: p) :: ps

/-- The pieces `ps` with `sep` between them. -/
def join (sep : Text) : List Text → Text
  | [] => []
  | [p] => p
  | p :: q :: ps => p ++ sep ++ join sep (q :: ps)

/-- A text without the carriage return that ends it, if one does. -/
def dropReturn (t : Text) : Text :=
  if t.getLast? = some '\r' then t.dropLast else t

/-- What follows `start` in `t`, if `t` begins with it. -/
def after? (start t : Text) : Option Text :=
  if start.isPrefixOf t then some (t.drop start.length) else none

/-- A text without the characters of the class `p` at its two ends. -/
def trimBy (p : Char → Bool) (t : Text) : Text :=
  ((t.dropWhile p).reverse.dropWhile p).reverse

/-- A text without the characters of the class `p` at its end. -/
def trimEndBy (p : Char → Bool) (t : Text) : Text :=
  (t.reverse.dropWhile p).reverse

/-- The decimal digits of a number. -/
def ofNat (n : Nat) : Text :=
  (toString n).toList

/-- The decimal digits of an integer, after a minus sign when it is negative. -/
def ofInt (n : Int) : Text :=
  (toString n).toList

/-- The order of texts by the code points of their characters: `s` comes before `t` or is `t`. -/
def le : Text → Text → Bool
  | [], _ => true
  | _ :: _, [] => false
  | c :: r, d :: q => c.toNat < d.toNat || (c = d && le r q)

/-- `t` with every occurrence of `c` replaced by `d`. -/
def replaceChar (c d : Char) (t : Text) : Text :=
  t.map fun x => if x = c then d else x

theorem le_total (s t : Text) : le s t || le t s := by
  induction s generalizing t with
  | nil => simp [le]
  | cons c r ih =>
    cases t with
    | nil => simp [le]
    | cons d q =>
      by_cases h : c = d
      · subst h
        simpa [le] using ih q
      · have : c.toNat ≠ d.toNat := fun e => h (Char.toNat_inj.1 e)
        simp only [le, Bool.or_eq_true, decide_eq_true_eq]
        omega

theorem le_trans {s t u : Text} (hst : le s t) (htu : le t u) : le s u := by
  induction s generalizing t u with
  | nil => simp [le]
  | cons c r ih =>
    match t, u with
    | d :: q, e :: p =>
      simp only [le, Bool.or_eq_true, decide_eq_true_eq, Bool.and_eq_true] at hst htu ⊢
      rcases hst with hst | ⟨rfl, hst⟩ <;> rcases htu with htu | ⟨rfl, htu⟩
      · left; omega
      · left; exact hst
      · left; exact htu
      · right; exact ⟨rfl, ih hst htu⟩

theorem pieces_ne_nil (sep : Char) (t : Text) : pieces sep t ≠ [] := by
  induction t with
  | nil => simp [pieces]
  | cons c r ih => simp only [pieces]; split <;> (try split) <;> simp

theorem length_pieces (sep : Char) (t : Text) : (pieces sep t).length = t.count sep + 1 := by
  induction t with
  | nil => rfl
  | cons c r ih =>
    by_cases h : c = sep
    · simp [pieces, h, ih]
    · simp only [pieces, h, if_false]
      split
      · exact absurd ‹_› (pieces_ne_nil sep r)
      · next p ps hp =>
        have hc : (c :: r).count sep = r.count sep := by simp [h]
        rw [hp] at ih
        simpa [hc] using ih

theorem join_pieces (sep : Char) (t : Text) : join [sep] (pieces sep t) = t := by
  induction t with
  | nil => rfl
  | cons c r ih =>
    by_cases h : c = sep
    · subst h
      simp only [pieces, if_true]
      cases hp : pieces c r with
      | nil => exact absurd hp (pieces_ne_nil c r)
      | cons p ps => rw [hp] at ih; simp [join, ih]
    · simp only [pieces, h, if_false]
      cases hp : pieces sep r with
      | nil => exact absurd hp (pieces_ne_nil sep r)
      | cons p ps =>
        rw [hp] at ih
        cases ps with
        | nil => simp only [join] at ih ⊢; rw [ih]
        | cons q qs => simp only [join, List.cons_append] at ih ⊢; rw [ih]

theorem not_of_dropWhile {p : Char → Bool} {t rest : Text} {c : Char}
    (h : t.dropWhile p = c :: rest) : p c = false := by
  induction t with
  | nil => simp at h
  | cons d r ih =>
    rw [List.dropWhile_cons] at h
    split at h
    · exact ih h
    · next hd =>
      obtain ⟨rfl, _⟩ := List.cons.inj h
      simpa using hd

theorem length_dropWhile_le (p : Char → Bool) (t : Text) : (t.dropWhile p).length ≤ t.length :=
  (List.dropWhile_suffix p).length_le

theorem length_dropReturn_le (t : Text) : (dropReturn t).length ≤ t.length := by
  unfold dropReturn; split <;> simp

end Text

end Gloss
