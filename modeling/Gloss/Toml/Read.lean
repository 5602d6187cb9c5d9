import Gloss.Text.Basic

/-! Reading from the front of a TOML document. What is read takes a character or more, so that
reading comes to an end. -/

namespace Gloss.Toml

/-- Why a document has no value. An integer of too many decimal digits is refused apart, and so are
values that are nested too deeply. -/
inductive Error where
  | malformed
  | tooDeep
  | oversized (digits : Nat)
  deriving DecidableEq, Repr

/-- What is left of `s` after something at its front was skipped. -/
structure Left (s : Text) where
  rest : Text
  le : rest.length ≤ s.length

/-- A value read from the front of `s`, and what is left. -/
structure Read (s : Text) (α : Type) where
  value : α
  rest : Text
  shorter : rest.length < s.length

theorem length_le_cons (c : Char) (r : Text) : r.length ≤ (c :: r).length :=
  Nat.le_succ _

theorem length_lt_cons (c : Char) (r : Text) : r.length < (c :: r).length :=
  Nat.lt_succ_self _

theorem length_dropWhile_lt_cons (p : Char → Bool) (c : Char) (r : Text) :
    (r.dropWhile p).length < (c :: r).length :=
  Nat.lt_succ_of_le (Text.length_dropWhile_le p r)

theorem Left.tail_lt {s r : Text} {c : Char} (t : Left s) (h : t.rest = c :: r) :
    r.length < s.length :=
  Nat.lt_of_lt_of_le (h ▸ length_lt_cons c r) t.le

namespace Read

variable {α β : Type} {s t : Text}

def map (f : α → β) (r : Read s α) : Read s β :=
  ⟨f r.value, r.rest, r.shorter⟩

/-- A reading of a shorter text, as one of the longer text that it comes from. -/
def within (r : Read t α) (h : t.length ≤ s.length) : Read s α :=
  ⟨r.value, r.rest, Nat.lt_of_lt_of_le r.shorter h⟩

/-- A reading that leaves `rest`, which has to be shorter. -/
def leaving (s : Text) (value : α) (rest : Text) : Except Error (Read s α) :=
  if h : rest.length < s.length then .ok ⟨value, rest, h⟩ else .error .malformed

theorem rest_le (r : Read s α) : r.rest.length ≤ s.length :=
  Nat.le_of_lt r.shorter

theorem tail_lt {q : Text} {c : Char} (r : Read s α) (h : r.rest = c :: q) :
    q.length < s.length :=
  Nat.lt_trans (h ▸ length_lt_cons c q) r.shorter

theorem tail_le {q : Text} {c : Char} (r : Read s α) (h : r.rest = c :: q) :
    q.length ≤ s.length :=
  Nat.le_of_lt (r.tail_lt h)

end Read

/-- Space or tab. -/
def isSpace (c : Char) : Bool :=
  c = ' ' || c = '\t'

/-- Space, tab or line feed. -/
def isSpaceOrBreak (c : Char) : Bool :=
  isSpace c || c = '\n'

/-- A control character of ASCII other than the tab. -/
def isControl (c : Char) : Bool :=
  (c.toNat < 0x20 && c ≠ '\t') || c.toNat = 0x7f

def skipSpace (s : Text) : Text :=
  s.dropWhile isSpace

theorem length_skipSpace_le (s : Text) : (skipSpace s).length ≤ s.length :=
  Text.length_dropWhile_le _ _

theorem length_lt_of_skipSpace {s r : Text} {c : Char} (h : skipSpace s = c :: r) :
    r.length < s.length :=
  Nat.lt_of_lt_of_le (h ▸ length_lt_cons c r) (length_skipSpace_le s)

/-- What follows the comment that `s` begins with, if it begins with one. The line break after a
comment is not part of it. -/
def skipComment : Text → Except Error Text
  | '#' :: r =>
    if (r.takeWhile (· ≠ '\n')).any isControl then .error .malformed
    else .ok (r.dropWhile (· ≠ '\n'))
  | s => .ok s

theorem length_le_of_skipComment {s t : Text} (h : skipComment s = .ok t) :
    t.length ≤ s.length := by
  unfold skipComment at h
  split at h
  · split at h
    · simp at h
    · cases h
      exact Nat.le_succ_of_le (Text.length_dropWhile_le _ _)
  · cases h
    exact Nat.le_refl _

/-- What follows the spaces, line breaks and comments that `s` begins with. -/
def skipFiller (s : Text) : Except Error (Left s) :=
  match h : skipComment (s.dropWhile isSpaceOrBreak) with
  | .error e => .error e
  | .ok t =>
    have le : t.length ≤ s.length :=
      Nat.le_trans (length_le_of_skipComment h) (Text.length_dropWhile_le _ _)
    if t.length < s.length then
      match skipFiller t with
      | .ok u => .ok ⟨u.rest, Nat.le_trans u.le le⟩
      | .error e => .error e
    else .ok ⟨t, le⟩
termination_by s.length

namespace Read

variable {α : Type} {s : Text}

/-- A reading without the spaces that follow it. -/
def dropSpace (r : Read s α) : Read s α :=
  ⟨r.value, skipSpace r.rest, Nat.lt_of_le_of_lt (length_skipSpace_le r.rest) r.shorter⟩

/-- A reading without the spaces, line breaks and comments that follow it. -/
def dropFiller (r : Read s α) : Except Error (Read s α) := do
  let t ← skipFiller r.rest
  return ⟨r.value, t.rest, Nat.lt_of_le_of_lt t.le r.shorter⟩

theorem length_skipSpace_tail_lt {q : Text} {c : Char} (r : Read s α) (h : r.rest = c :: q) :
    (skipSpace q).length < s.length :=
  Nat.lt_of_le_of_lt (length_skipSpace_le q) (r.tail_lt h)

theorem length_skipSpace_tail_le {q : Text} {c : Char} (r : Read s α) (h : r.rest = c :: q) :
    (skipSpace q).length ≤ s.length :=
  Nat.le_of_lt (r.length_skipSpace_tail_lt h)

end Read

end Gloss.Toml
