import Gloss.Text.Basic

/-! Wildcard patterns. `*` stands for any characters, `?` for one, and a set in brackets for one
character of the set, or outside it after `!`. Slashes and line breaks are characters like any
other, and there is no way to quote one. -/

namespace Gloss

/-- A part of a wildcard pattern. A set is a list of ranges. -/
inductive Wild where
  | any
  | one
  | literal (c : Char)
  | set (negated : Bool) (ranges : List (Char × Char))
  deriving DecidableEq, Repr

abbrev Wildcard := List Wild

namespace Wild

/-- The part admits `c` as its one character. -/
def admits : Wild → Char → Bool
  | .any, _ => true
  | .one, _ => true
  | .literal d, c => c = d
  | .set negated ranges, c => (ranges.any fun r => r.1 ≤ c && c ≤ r.2) != negated

end Wild

/-! ### Sets -/

/-- The pieces of a set between the hyphens that make ranges: a piece has `least` characters or
more, and every later piece two or more, before such a hyphen. -/
def hyphenPieces (least : Nat) (t : Text) : List Text :=
  match _h : (t.drop least).dropWhile (· ≠ '-') with
  | [] => [t]
  | _ :: rest => (t.take least ++ (t.drop least).takeWhile (· ≠ '-')) :: hyphenPieces 2 rest
termination_by t.length
decreasing_by
  have h1 := Text.length_dropWhile_le (· ≠ '-') (t.drop least)
  have h2 : (t.drop least).length ≤ t.length := by simp
  rw [_h] at h1
  simp only [List.length_cons] at h1
  omega

/-- A hyphen that ends a set is a character of the piece before it. -/
def closeHyphen : List Text → List Text
  | [] => []
  | [p] => [p]
  | [p, []] => [p ++ ['-']]
  | p :: q :: ps => p :: closeHyphen (q :: ps)

/-- Ranges whose ends are in the wrong order are dropped, from the last to the first, and the pieces
around each are joined. -/
def dropEmptyRanges : List Text → List Text
  | [] => []
  | p :: ps =>
    match dropEmptyRanges ps with
    | [] => [p]
    | q :: qs =>
      match p.getLast?, q.head? with
      | some low, some high => if high < low then (p.dropLast ++ q.drop 1) :: qs else p :: q :: qs
      | _, _ => p :: q :: qs

/-- A character of a set, or the hyphen of a range. -/
inductive SetMark where
  | char (c : Char)
  | hyphen
  deriving DecidableEq, Repr

/-- The pieces with a hyphen between each two. -/
def setMarks : List Text → List SetMark
  | [] => []
  | [p] => p.map .char
  | p :: q :: ps => p.map .char ++ .hyphen :: setMarks (q :: ps)

def SetMark.toChar : SetMark → Char
  | .char c => c
  | .hyphen => '-'

/-- The ranges of a set. A hyphen with nothing on one of its sides is a character. -/
def setRanges : List SetMark → List (Char × Char)
  | [] => []
  | low :: .hyphen :: high :: rest => (low.toChar, high.toChar) :: setRanges rest
  | m :: rest => (m.toChar, m.toChar) :: setRanges rest

/-- The set with the text `t`. The sign of negation is looked for after empty ranges are gone. -/
def Wild.ofSet (t : Text) : Wild :=
  let least := if t.head? = some '!' then 2 else 1
  match setMarks (dropEmptyRanges (closeHyphen (hyphenPieces least t))) with
  | .char '!' :: marks => .set true (setRanges marks)
  | marks => .set false (setRanges marks)

/-- The text of the set that `t` begins with, `t` standing after the opening bracket, and what
follows the closing one. A closing bracket in front is a character of the set. -/
def splitSet? (t : Text) : Option (Text × Text) :=
  let bang := if t.head? = some '!' then 1 else 0
  let front := if (t.drop bang).head? = some ']' then bang + 1 else bang
  match (t.drop front).dropWhile (· ≠ ']') with
  | [] => none
  | _ :: after => some (t.take front ++ (t.drop front).takeWhile (· ≠ ']'), after)

theorem length_le_of_splitSet? {t set after : Text} (h : splitSet? t = some (set, after)) :
    after.length ≤ t.length := by
  simp only [splitSet?] at h
  split at h
  · simp at h
  · next heq =>
    simp only [Option.some.injEq, Prod.mk.injEq] at h
    obtain ⟨-, rfl⟩ := h
    refine Nat.le_trans ?_ (Nat.le_trans (heq ▸ Text.length_dropWhile_le _ _) ?_)
    · simp
    · simp

namespace Wildcard

/-- The pattern that a text writes. A bracket that is not closed is a character. -/
def ofText (t : Text) : Wildcard :=
  match t with
  | [] => []
  | c :: r =>
    if c = '*' then .any :: ofText r
    else if c = '?' then .one :: ofText r
    else if c = '[' then
      match _h : splitSet? r with
      | some (set, after) => Wild.ofSet set :: ofText after
      | none => .literal c :: ofText r
    else .literal c :: ofText r
termination_by t.length
decreasing_by
  all_goals simp_wf
  have := length_le_of_splitSet? _h
  omega

/-- For each suffix of `t`, from `t` itself down to the empty one, whether the pattern matches the
whole of it. -/
def suffixMatches (t : Text) : Wildcard → List Bool
  | [] => t.map (fun _ => false) ++ [true]
  | .any :: rest => (suffixMatches t rest).foldr (fun b bs => (b || bs.head?.getD false) :: bs) []
  | w :: rest =>
    List.zipWith (fun c b => w.admits c && b) t ((suffixMatches t rest).drop 1) ++ [false]

/-- The pattern matches the whole text. -/
def covers (w : Wildcard) (t : Text) : Bool :=
  (suffixMatches t w).head?.getD false

end Wildcard

/-- Some pattern matches the whole path. -/
def isExcluded (globs : List Text) (path : Text) : Bool :=
  globs.any fun glob => (Wildcard.ofText glob).covers path

end Gloss
