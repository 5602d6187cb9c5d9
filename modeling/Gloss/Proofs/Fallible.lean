import Mathlib.Data.List.Forall2

/-! Steps that can fail, one after another: such a chain succeeds with what its steps come to, and a
list of steps succeeds if each of them does. A test that can fail goes through a list up to the
first member where the answer is not no. -/

namespace Gloss

variable {ε α β : Type}

theorem isOk_iff {x : Except ε α} : x.isOk = true ↔ ∃ a, x = .ok a := by
  cases x with
  | error e => simp [Except.isOk, Except.toBool]
  | ok a => simp [Except.isOk, Except.toBool]

theorem bind_eq_ok_iff {x : Except ε α} {f : α → Except ε β} {b : β} :
    (x >>= f) = .ok b ↔ ∃ a, x = .ok a ∧ f a = .ok b := by
  cases x with
  | error e => simp [bind, Except.bind]
  | ok a => simp [bind, Except.bind]

theorem bind_eq_error_iff {x : Except ε α} {f : α → Except ε β} {e : ε} :
    (x >>= f) = .error e ↔ x = .error e ∨ ∃ a, x = .ok a ∧ f a = .error e := by
  cases x with
  | error e' => simp [bind, Except.bind]
  | ok a => simp [bind, Except.bind]

theorem mapM_eq_ok_iff {f : α → Except ε β} {as : List α} {bs : List β} :
    as.mapM f = .ok bs ↔ List.Forall₂ (fun a b => f a = .ok b) as bs := by
  induction as generalizing bs with
  | nil =>
    rw [List.mapM_nil, List.forall₂_nil_left_iff]
    constructor
    · exact fun h => (Except.ok.inj h).symm
    · rintro rfl
      rfl
  | cons a as ih =>
    rw [List.mapM_cons, List.forall₂_cons_left_iff]
    simp only [bind_eq_ok_iff, ih]
    constructor
    · rintro ⟨b, hb, bs', hbs, h⟩
      exact ⟨b, bs', hb, hbs, (Except.ok.inj h).symm⟩
    · rintro ⟨b, bs', hb, hbs, rfl⟩
      exact ⟨b, hb, bs', hbs, rfl⟩

/-- A list of steps succeeds exactly if each of them does. -/
theorem exists_mapM_iff {f : α → Except ε β} {as : List α} :
    (∃ bs, as.mapM f = .ok bs) ↔ ∀ a ∈ as, ∃ b, f a = .ok b := by
  induction as with
  | nil => exact ⟨fun _ _ h => absurd h List.not_mem_nil, fun _ => ⟨[], rfl⟩⟩
  | cons a as ih =>
    rw [List.forall_mem_cons, ← ih]
    simp only [mapM_eq_ok_iff, List.forall₂_cons_left_iff]
    constructor
    · rintro ⟨_, b, bs, hb, hbs, rfl⟩
      exact ⟨⟨b, hb⟩, bs, hbs⟩
    · rintro ⟨⟨b, hb⟩, bs, hbs⟩
      exact ⟨b :: bs, b, bs, hb, hbs, rfl⟩

/-- If every step succeeds with something that has a property, so does the list of them. -/
theorem exists_mapM_forall {P : β → Prop} {f : α → Except ε β} {as : List α}
    (h : ∀ a ∈ as, ∃ b, f a = .ok b ∧ P b) : ∃ bs, as.mapM f = .ok bs ∧ ∀ b ∈ bs, P b := by
  induction as with
  | nil => exact ⟨[], rfl, List.forall_mem_nil P⟩
  | cons a as ih =>
    obtain ⟨⟨b, hb, hP⟩, has⟩ := List.forall_mem_cons.mp h
    obtain ⟨bs, hbs, hall⟩ := ih has
    exact ⟨b :: bs, mapM_eq_ok_iff.mpr (.cons hb (mapM_eq_ok_iff.mp hbs)),
      List.forall_mem_cons.mpr ⟨hP, hall⟩⟩

/-- The error of a list of steps is that of one of them. -/
theorem exists_of_mapM_eq_error {f : α → Except ε β} {as : List α} {e : ε}
    (h : as.mapM f = .error e) : ∃ a ∈ as, f a = .error e := by
  induction as with
  | nil => cases h
  | cons a as ih =>
    rw [List.mapM_cons] at h
    obtain ha | ⟨b, -, h⟩ := bind_eq_error_iff.mp h
    · exact ⟨a, List.mem_cons_self, ha⟩
    · obtain has | ⟨bs, -, h⟩ := bind_eq_error_iff.mp h
      · obtain ⟨x, hx, hfx⟩ := ih has
        exact ⟨x, List.mem_cons_of_mem a hx, hfx⟩
      · cases h

theorem mapM_eq_none_iff {f : α → Option β} {as : List α} :
    as.mapM f = none ↔ ∃ a ∈ as, f a = none := by
  induction as with
  | nil => simp
  | cons a as ih =>
    rw [List.mapM_cons, List.exists_mem_cons_iff, ← ih]
    cases f a with
    | none => simp
    | some b =>
      cases as.mapM f with
      | none => simp
      | some bs => simp

theorem forM_eq_ok_iff {f : α → Except ε Unit} {as : List α} :
    as.forM f = .ok () ↔ ∀ a ∈ as, f a = .ok () := by
  induction as with
  | nil => exact ⟨fun _ _ h => absurd h List.not_mem_nil, fun _ => rfl⟩
  | cons a as ih =>
    rw [List.forall_mem_cons, ← ih]
    refine bind_eq_ok_iff.trans ?_
    constructor
    · rintro ⟨_, ha, has⟩
      exact ⟨ha, has⟩
    · rintro ⟨ha, has⟩
      exact ⟨(), ha, has⟩

theorem anyM_cons_of_false {f : α → Except ε Bool} {a : α} {as : List α} (h : f a = .ok false) :
    (a :: as).anyM f = as.anyM f := by
  rw [List.anyM, h]
  rfl

theorem anyM_cons_of_ne {f : α → Except ε Bool} {a : α} {as : List α} (h : f a ≠ .ok false) :
    (a :: as).anyM f = f a := by
  rw [List.anyM]
  rcases hfa : f a with e | _ | _
  · rfl
  · exact absurd hfa h
  · rfl

theorem anyM_congr {f g : α → Except ε Bool} {as : List α} (h : ∀ a ∈ as, f a = g a) :
    as.anyM f = as.anyM g := by
  induction as with
  | nil => rfl
  | cons a as ih =>
    obtain ⟨ha, has⟩ := List.forall_mem_cons.mp h
    by_cases hfalse : f a = .ok false
    · rw [anyM_cons_of_false hfalse, anyM_cons_of_false (ha ▸ hfalse), ih has]
    · rw [anyM_cons_of_ne hfalse, anyM_cons_of_ne (ha ▸ hfalse), ha]

theorem anyM_eq_false_iff {f : α → Except ε Bool} {as : List α} :
    as.anyM f = .ok false ↔ ∀ a ∈ as, f a = .ok false := by
  induction as with
  | nil => exact ⟨fun _ _ h => absurd h List.not_mem_nil, fun _ => rfl⟩
  | cons a as ih =>
    rw [List.forall_mem_cons, ← ih]
    by_cases hfalse : f a = .ok false
    · rw [anyM_cons_of_false hfalse, and_iff_right hfalse]
    · rw [anyM_cons_of_ne hfalse, and_iff_left_of_imp fun h => absurd h hfalse]

/-- A test of the members of a list, one after the other, comes to what it comes to at the first for
which the answer is not no. -/
theorem anyM_eq_iff {f : α → Except ε Bool} {as : List α} {x : Except ε Bool}
    (hx : x ≠ .ok false) : as.anyM f = x ↔
      ∃ before a after, as = before ++ a :: after ∧ f a = x ∧ ∀ b ∈ before, f b = .ok false := by
  induction as with
  | nil =>
    refine iff_of_false hx.symm ?_
    rintro ⟨before, a, after, heq, -⟩
    exact List.append_ne_nil_of_right_ne_nil before (List.cons_ne_nil a after) heq.symm
  | cons a as ih =>
    by_cases hfalse : f a = .ok false
    · rw [anyM_cons_of_false hfalse, ih]
      constructor
      · rintro ⟨before, b, after, rfl, hb, hbefore⟩
        exact ⟨a :: before, b, after, rfl, hb, List.forall_mem_cons.mpr ⟨hfalse, hbefore⟩⟩
      · rintro ⟨_ | ⟨c, before⟩, b, after, heq, hb, hbefore⟩
        · obtain ⟨rfl, rfl⟩ := List.cons.inj heq
          exact absurd (hb.symm.trans hfalse) hx
        · obtain ⟨rfl, rfl⟩ := List.cons.inj heq
          exact ⟨before, b, after, rfl, hb, (List.forall_mem_cons.mp hbefore).2⟩
    · rw [anyM_cons_of_ne hfalse]
      constructor
      · exact fun h => ⟨[], a, as, rfl, h, List.forall_mem_nil _⟩
      · rintro ⟨_ | ⟨c, before⟩, b, after, heq, hb, hbefore⟩
        · obtain ⟨rfl, rfl⟩ := List.cons.inj heq
          exact hb
        · obtain ⟨rfl, rfl⟩ := List.cons.inj heq
          exact absurd (hbefore a List.mem_cons_self) hfalse

end Gloss
