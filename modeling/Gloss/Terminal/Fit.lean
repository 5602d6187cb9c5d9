import Gloss.Text.Basic

/-! Widths that share a line. If they are too many cells together, the widest of those that can
shrink give way first, down to the next widest, and what is then still too much is taken from them
in even parts. Widths that fit stay as they are. -/

namespace Gloss.Terminal

/-- A width, and whether it can shrink. -/
structure Extent where
  cells : Nat
  shrinks : Bool
  deriving DecidableEq, Repr

/-- The whole number that is nearest to `n / d`. Of two that are equally near it is the even one. -/
def nearestQuotient (n d : Nat) : Nat :=
  let q := n / d
  let twice := 2 * (n % d)
  if twice < d ∨ twice = d ∧ q % 2 = 0 then q else q + 1

namespace Extent

/-- The cells of all widths together. -/
def total (extents : List Extent) : Nat :=
  extents.foldr (fun e n => e.cells + n) 0

/-- The most cells that one of the widths has. -/
def widest (extents : List Extent) : Nat :=
  extents.foldr (fun e n => max e.cells n) 0

/-- Takes `excess` cells in even parts from the `givers` widths of `level` cells that can shrink,
and at most `most` from each of them. -/
def narrow (level most excess givers : Nat) : List Extent → List Extent
  | [] => []
  | e :: rest =>
    if e.shrinks && e.cells == level then
      let part := min most (nearestQuotient excess givers)
      { e with cells := e.cells - part } :: narrow level most (excess - part) (givers - 1) rest
    else e :: narrow level most excess givers rest

/-- Narrows the widest, at most `rounds` times, until all widths fit into `limit` cells. -/
def fitFor (limit : Nat) : Nat → List Extent → List Extent
  | 0, extents => extents
  | rounds + 1, extents =>
    let excess := total extents - limit
    if excess = 0 then extents
    else
      let able := extents.filter (·.shrinks)
      let level := widest able
      let next := widest (able.filter (·.cells != level))
      let givers := (able.filter (·.cells == level)).length
      fitFor limit rounds (narrow level (min excess (level - next)) excess givers extents)

/-- Widths that fit into `limit` cells, if those that can shrink leave room. After each round there
is one size less among them, or they fit. -/
def fit (limit : Nat) (extents : List Extent) : List Extent :=
  fitFor limit extents.length extents

end Extent

end Gloss.Terminal
