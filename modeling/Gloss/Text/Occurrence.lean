import Gloss.Text.Basic

/-! The occurrences of a key in a text, taken from left to right without overlap. -/

namespace Gloss.Text

/-- The offsets at which `key` occurs in `t`, `t` standing at the offset `here`. After an
occurrence the search goes on behind it. -/
def occurrencesFrom (key : Text) (here : Nat) (t : Text) : List Nat :=
  match t with
  | [] => []
  | c :: r =>
    if key.isPrefixOf (c :: r) then
      here :: occurrencesFrom key (here + key.length) (r.drop (key.length - 1))
    else occurrencesFrom key (here + 1) r
termination_by t.length

/-- The offsets of the occurrences of `key` in `t`. An empty key has none. -/
def occurrences (key t : Text) : List Nat :=
  if key = [] then [] else occurrencesFrom key 0 t

@[simp] theorem occurrences_nil (t : Text) : occurrences [] t = [] := rfl

end Gloss.Text
