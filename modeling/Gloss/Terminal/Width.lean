import Gloss.Terminal.CharWidth

/-! How many cells of a terminal a text takes. A joiner makes one sign of the characters around it,
and a selector makes an emoji of the character before it; so a text can only be cut between its
clusters. -/

namespace Gloss.Terminal

/-- Joins the character after it to the sign before it. -/
def joiner : Char := '\u200d'

/-- Asks for the emoji that the character before it also is. -/
def emojiSelector : Char := '\ufe0f'

/-- The cells of a text. `narrow`: the last character before it that has a width is narrow, and a
selector would make it wide. -/
def widthFrom (narrow : Bool) : Text → Nat
  | [] => 0
  | c :: r =>
    if c = joiner then
      match r with
      | [] => 0
      | _ :: rest => widthFrom narrow rest
    else if c = emojiSelector then (if narrow then 1 else 0) + widthFrom false r
    else if charWidth c = 0 then widthFrom narrow r
    else charWidth c + widthFrom (isNarrowEmoji c) r

/-- The cells that a text takes. -/
def width (t : Text) : Nat :=
  widthFrom false t

/-! ### Clusters -/

/-- Characters that are never cut apart, with the cells that they take. -/
structure Cluster where
  text : Text
  width : Nat
  deriving DecidableEq, Repr

namespace Cluster

def ofChar (c : Char) : Cluster :=
  ⟨[c], charWidth c⟩

/-- A cluster with more characters at its end, and more cells. -/
def add (k : Cluster) (t : Text) (cells : Nat) : Cluster :=
  ⟨k.text ++ t, k.width + cells⟩

end Cluster

/-- The cluster `k` with what belongs to it at the front of a text, and the clusters after it.
`narrow` is as for `widthFrom`. -/
def clustersFrom (narrow : Bool) (k : Cluster) : Text → List Cluster
  | [] => [k]
  | c :: r =>
    if c = joiner then
      match r with
      | [] => [k.add [c] 0]
      | d :: rest => clustersFrom narrow (k.add [c, d] 0) rest
    else if c = emojiSelector then clustersFrom false (k.add [c] (if narrow then 1 else 0)) r
    else if charWidth c = 0 then clustersFrom narrow (k.add [c] 0) r
    else k :: clustersFrom (isNarrowEmoji c) (Cluster.ofChar c) r

/-- The clusters of a text: each begins with a character that has a width, except that one without
may begin the first. -/
def clusters : Text → List Cluster
  | [] => []
  | c :: r => clustersFrom (isNarrowEmoji c) (Cluster.ofChar c) r

/-! ### Cutting and filling -/

/-- As much of the clusters as fits into `limit` cells. A cell that only half of a wide cluster
would take stays empty. -/
def crop (limit : Nat) : List Cluster → Text
  | [] => []
  | k :: ks =>
    if k.width ≤ limit then k.text ++ crop (limit - k.width) ks
    else if limit = 0 then [] else [' ']

def spaces (n : Nat) : Text :=
  List.replicate n ' '

/-- A text of at least `limit` cells, spaces being put after a shorter one. -/
def padEnd (limit : Nat) (t : Text) : Text :=
  t ++ spaces (limit - width t)

/-- A text of at most `limit` cells. One that is too long is cut, and ends with `mark`, of which
each character takes a cell. -/
def truncate (mark : Text) (limit : Nat) (t : Text) : Text :=
  if width t ≤ limit then t else crop (limit - mark.length) (clusters t) ++ mark

end Gloss.Terminal
