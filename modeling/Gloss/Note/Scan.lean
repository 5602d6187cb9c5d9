import Gloss.Note.Basic
import Gloss.Text.Blank

/-! Reading notes out of a text. A marker is a key between brackets; its value runs up to the next
line that begins with an opening bracket, or to the end of the text. -/

namespace Gloss

/-- The key of the marker that a text begins with, and what follows the closing bracket. An empty
or unclosed pair of brackets is no marker. -/
def marker? : Text → Option (Text × Text)
  | [] => none
  | c :: r =>
    if c = opening then
      match r.takeWhile (· ≠ closing), r.dropWhile (· ≠ closing) with
      | k :: ks, _ :: rest => some (k :: ks, rest)
      | _, _ => none
    else none

/-- A text up to the first line feed that an opening bracket follows, and the rest from there. -/
def splitValue : Text → Text × Text
  | [] => ([], [])
  | c :: r =>
    if c = '\n' ∧ r.head? = some opening then ([], c :: r)
    else
      let (value, rest) := splitValue r
      (c :: value, rest)

theorem splitValue_append (t : Text) : (splitValue t).1 ++ (splitValue t).2 = t := by
  induction t with
  | nil => rfl
  | cons c r ih => unfold splitValue; split <;> simp [ih]

theorem length_splitValue_le (t : Text) : (splitValue t).2.length ≤ t.length := by
  have := congrArg List.length (splitValue_append t)
  simp only [List.length_append] at this
  omega

theorem eq_of_marker? {t key rest : Text} (h : marker? t = some (key, rest)) :
    t = opening :: key ++ closing :: rest ∧ key ≠ [] ∧ closing ∉ key := by
  cases t with
  | nil => simp [marker?] at h
  | cons c r =>
    simp only [marker?] at h
    split at h
    · next hc =>
      subst hc
      split at h
      · next k ks d tail hk hd =>
        simp only [Option.some.injEq, Prod.mk.injEq] at h
        obtain ⟨rfl, rfl⟩ := h
        have hr := List.takeWhile_append_dropWhile (p := (· ≠ closing)) (l := r)
        have hdc : d = closing := by simpa using Text.not_of_dropWhile hd
        have hall := List.all_takeWhile (p := (· ≠ closing)) (l := r)
        rw [hk, hd] at hr
        rw [hk] at hall
        refine ⟨by rw [← hr, hdc]; rfl, by simp, fun hmem => ?_⟩
        have := List.all_eq_true.1 hall closing hmem
        simp at this
      · simp at h
    · simp at h

theorem length_lt_of_marker? {t key rest : Text} (h : marker? t = some (key, rest)) :
    rest.length < t.length := by
  rw [(eq_of_marker? h).1]
  simp only [List.cons_append, List.length_cons, List.length_append]
  omega

/-- A marker at the offset `start` with the text that belongs to it, as written. -/
structure Candidate where
  start : Nat
  key : Text
  value : Text
  deriving DecidableEq, Repr

namespace Candidate

/-- The offset of the closing bracket. -/
def close (c : Candidate) : Nat :=
  c.start + 1 + c.key.length

/-- The offset after the last character of the value. -/
def stop (c : Candidate) : Nat :=
  c.close + 1 + c.value.length

end Candidate

/-- The markers of `t` from left to right, `t` standing at the offset `here`. A marker inside the
value of another is part of that value. -/
def scan (here : Nat) (t : Text) : List Candidate :=
  match h : marker? t with
  | some (key, rest) =>
    let found : Candidate := ⟨here, key, (splitValue rest).1⟩
    found :: scan found.stop (splitValue rest).2
  | none =>
    match t with
    | [] => []
    | _ :: r => scan (here + 1) r
termination_by t.length
decreasing_by
  · have := length_lt_of_marker? h
    have := length_splitValue_le rest
    omega
  · simp

/-- The entry that a marker of `t` stands for: none when its key or its value is blank. -/
def Candidate.entry? (source t : Text) (c : Candidate) : Option Entry :=
  let key := c.key.trim
  let value := c.value.trim
  if key = [] ∨ value = [] then none
  else some { key, value, source, definition := LineSpan.around t c.start }

/-- The note entries of `t`, in the order of the text. -/
def readNotes (source t : Text) : List Entry :=
  (scan 0 t).filterMap (Candidate.entry? source t)

end Gloss
