import Mathlib.Data.List.Forall2
import Gloss.Wildcard

/-! What wildcard patterns match: a pattern covers a text if the text falls into runs, one for each
part of the pattern, that the parts stand for. -/

namespace Gloss

/-! ### Runs -/

/-- The list falls into runs, one for each part in their order, such that each part stands for its
run. -/
def InRuns {α β : Type} (stands : α → List β → Prop) (parts : List α) (l : List β) : Prop :=
  ∃ runs, List.Forall₂ stands parts runs ∧ runs.flatten = l

section Runs

variable {α β : Type} {stands : α → List β → Prop} {a : α} {parts : List α} {l : List β}

@[simp] theorem inRuns_nil : InRuns stands [] l ↔ l = [] := by
  constructor
  · rintro ⟨runs, hruns, rfl⟩
    obtain rfl := List.forall₂_nil_left_iff.mp hruns
    rfl
  · rintro rfl
    exact ⟨[], .nil, rfl⟩

theorem inRuns_cons : InRuns stands (a :: parts) l ↔
    ∃ run rest, stands a run ∧ InRuns stands parts rest ∧ run ++ rest = l := by
  constructor
  · rintro ⟨runs, hruns, rfl⟩
    obtain ⟨run, runs, hrun, hrest, rfl⟩ := List.forall₂_cons_left_iff.mp hruns
    exact ⟨run, runs.flatten, hrun, ⟨runs, hrest, rfl⟩, rfl⟩
  · rintro ⟨run, rest, hrun, ⟨runs, hruns, rfl⟩, rfl⟩
    exact ⟨run :: runs, .cons hrun hruns, rfl⟩

/-- A part that stands for any run takes nothing, or takes the first item and goes on. -/
theorem inRuns_any_cons (hany : ∀ run, stands a run) {b : β} :
    InRuns stands (a :: parts) (b :: l) ↔
      InRuns stands parts (b :: l) ∨ InRuns stands (a :: parts) l := by
  rw [inRuns_cons, inRuns_cons]
  constructor
  · rintro ⟨run, rest, -, hrest, heq⟩
    cases run with
    | nil =>
      obtain rfl : rest = b :: l := heq
      exact .inl hrest
    | cons c run =>
      obtain ⟨-, rfl⟩ := List.cons.inj heq
      exact .inr ⟨run, rest, hany _, hrest, rfl⟩
  · rintro (hrest | ⟨run, rest, -, hrest, rfl⟩)
    · exact ⟨[], b :: l, hany _, hrest, rfl⟩
    · exact ⟨b :: run, rest, hany _, hrest, rfl⟩

theorem inRuns_any_nil (hany : ∀ run, stands a run) :
    InRuns stands (a :: parts) [] ↔ InRuns stands parts [] := by
  rw [inRuns_cons]
  constructor
  · rintro ⟨run, rest, -, hrest, heq⟩
    obtain ⟨-, rfl⟩ := List.append_eq_nil_iff.mp heq
    exact hrest
  · exact fun h => ⟨[], [], hany _, h, rfl⟩

/-- A part that stands for single items takes the first item. -/
theorem inRuns_one_cons {p : β → Prop} (hone : ∀ run, stands a run ↔ ∃ b, run = [b] ∧ p b)
    {b : β} : InRuns stands (a :: parts) (b :: l) ↔ p b ∧ InRuns stands parts l := by
  rw [inRuns_cons]
  constructor
  · rintro ⟨run, rest, hrun, hrest, heq⟩
    obtain ⟨c, rfl, hc⟩ := (hone _).mp hrun
    obtain ⟨rfl, rfl⟩ := List.cons.inj heq
    exact ⟨hc, hrest⟩
  · rintro ⟨hb, hrest⟩
    exact ⟨[b], l, (hone _).mpr ⟨b, rfl, hb⟩, hrest, rfl⟩

theorem not_inRuns_one_nil {p : β → Prop} (hone : ∀ run, stands a run ↔ ∃ b, run = [b] ∧ p b) :
    ¬InRuns stands (a :: parts) [] := by
  rw [inRuns_cons]
  rintro ⟨run, rest, hrun, -, heq⟩
  obtain ⟨b, rfl, -⟩ := (hone _).mp hrun
  cases heq

/-- Lists of parts that stand for the same, part by part, describe the same lists. -/
theorem inRuns_congr {α' : Type} {stands' : α' → List β → Prop} {parts' : List α'}
    (h : List.Forall₂ (fun a a' => ∀ run, stands a run ↔ stands' a' run) parts parts') :
    InRuns stands parts l ↔ InRuns stands' parts' l := by
  induction h generalizing l with
  | nil => rw [inRuns_nil, inRuns_nil]
  | cons ha _ ih => simp only [inRuns_cons, ha, ih]

end Runs

/-! ### Wildcards -/

/-- A star stands for any run of characters, and any other part for one character that it admits. -/
def Wild.StandsFor (w : Wild) (run : Text) : Prop :=
  w = .any ∨ ∃ c, run = [c] ∧ w.admits c = true

namespace Wildcard

/-- The pattern matches the whole text. -/
def Matches (w : Wildcard) (t : Text) : Prop :=
  InRuns Wild.StandsFor w t

section Equations

variable {p : Wild} {w : Wildcard} {c : Char} {t : Text}

theorem suffixMatches_one (hp : p ≠ .any) (t : Text) : suffixMatches t (p :: w) =
    List.zipWith (fun c b => p.admits c && b) t ((suffixMatches t w).drop 1) ++ [false] := by
  cases p with
  | any => exact absurd rfl hp
  | one | literal | set => rfl

theorem suffixMatches_any (t : Text) : suffixMatches t (.any :: w) =
    (suffixMatches t w).foldr (fun b bs => (b || bs.head?.getD false) :: bs) [] := rfl

/-- The first answer is the one for the whole text. -/
theorem exists_suffixMatches (w : Wildcard) (t : Text) :
    ∃ rest, suffixMatches t w = w.covers t :: rest := by
  have hne : suffixMatches t w ≠ [] := by
    induction w with
    | nil => simp [suffixMatches]
    | cons p w ih =>
      by_cases hp : p = .any
      · subst hp
        obtain ⟨b, rest, hrest⟩ := List.exists_cons_of_ne_nil ih
        rw [suffixMatches_any, hrest]
        simp
      · rw [suffixMatches_one hp]
        simp
  obtain ⟨b, rest, hrest⟩ := List.exists_cons_of_ne_nil hne
  exact ⟨rest, by rw [covers, hrest]; rfl⟩

/-- The answers for the suffixes of a longer text are one more answer, before those for the suffixes
of the text. -/
theorem suffixMatches_cons (w : Wildcard) (c : Char) (t : Text) :
    suffixMatches (c :: t) w = w.covers (c :: t) :: suffixMatches t w := by
  have h : ∃ b, suffixMatches (c :: t) w = b :: suffixMatches t w := by
    induction w with
    | nil => exact ⟨false, rfl⟩
    | cons p w ih =>
      obtain ⟨b, hb⟩ := ih
      by_cases hp : p = .any
      · subst hp
        exact ⟨_, by rw [suffixMatches_any, hb]; rfl⟩
      · obtain ⟨rest, hrest⟩ := exists_suffixMatches w t
        exact ⟨_, by rw [suffixMatches_one hp, suffixMatches_one hp, hb, hrest]; rfl⟩
  obtain ⟨b, hb⟩ := h
  rw [covers, hb]
  rfl

theorem suffixMatches_nil (w : Wildcard) : suffixMatches [] w = [w.covers []] := by
  have h : ∃ b, suffixMatches [] w = [b] := by
    induction w with
    | nil => exact ⟨true, rfl⟩
    | cons p w ih =>
      by_cases hp : p = .any
      · subst hp
        obtain ⟨b, hb⟩ := ih
        exact ⟨_, by rw [suffixMatches_any, hb]; rfl⟩
      · exact ⟨_, by rw [suffixMatches_one hp]; rfl⟩
  obtain ⟨b, hb⟩ := h
  rw [covers, hb]
  rfl

/-! The equations of `covers`, by the first part and the first character. -/

theorem covers_nil (t : Text) : covers [] t = true ↔ t = [] := by
  cases t with
  | nil => simp [covers, suffixMatches]
  | cons c t => simp [covers, suffixMatches]

theorem covers_any_nil (w : Wildcard) : covers (.any :: w) [] = w.covers [] := by
  rw [covers, suffixMatches_any, suffixMatches_nil]
  exact Bool.or_false _

theorem covers_any_cons (w : Wildcard) (c : Char) (t : Text) :
    covers (.any :: w) (c :: t) = (w.covers (c :: t) || covers (.any :: w) t) := by
  rw [covers, suffixMatches_any, suffixMatches_cons]
  rfl

theorem covers_one_nil (hp : p ≠ .any) (w : Wildcard) : covers (p :: w) [] = false := by
  rw [covers, suffixMatches_one hp]
  rfl

theorem covers_one_cons (hp : p ≠ .any) (w : Wildcard) (c : Char) (t : Text) :
    covers (p :: w) (c :: t) = (p.admits c && w.covers t) := by
  obtain ⟨rest, hrest⟩ := exists_suffixMatches w t
  rw [covers, suffixMatches_one hp, suffixMatches_cons, hrest]
  rfl

end Equations

theorem standsFor_one {p : Wild} (hp : p ≠ .any) (run : Text) :
    p.StandsFor run ↔ ∃ c, run = [c] ∧ p.admits c = true := by
  rw [Wild.StandsFor, or_iff_right hp]

/-- What the answers for the suffixes come to is what the parts stand for. -/
theorem covers_iff_matches (w : Wildcard) (t : Text) : w.covers t = true ↔ w.Matches t := by
  induction w generalizing t with
  | nil => rw [covers_nil, Matches, inRuns_nil]
  | cons p w ih =>
    by_cases hp : p = .any
    · subst hp
      have hany : ∀ run, Wild.StandsFor .any run := fun _ => .inl rfl
      -- A star may take one character more, so this case goes on by the text.
      induction t with
      | nil => rw [covers_any_nil, ih, Matches, Matches, inRuns_any_nil hany]
      | cons c t iht =>
        rw [covers_any_cons, Bool.or_eq_true, ih]
        exact (or_congr_right iht).trans (inRuns_any_cons hany).symm
    · have hone := standsFor_one hp
      cases t with
      | nil =>
        rw [covers_one_nil hp]
        exact iff_of_false Bool.false_ne_true (not_inRuns_one_nil hone)
      | cons c t =>
        rw [covers_one_cons hp, Bool.and_eq_true, ih, Matches, Matches, inRuns_one_cons hone]

end Wildcard

end Gloss
