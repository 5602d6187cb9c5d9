import Gloss.Terminal.Literal
import Gloss.Terminal.Marked
import Gloss.Text.Quoted
import Gloss.Text.Word

/-! Text with style tags in brackets. A tag opens a style, one with a slash closes it, and an odd
number of backslashes before a tag makes it plain text.

Names of emoji between colons, tabs and control characters are taken as they are, although a
terminal shows them in another way: that changes what is shown, and never whether a text can be
shown. -/

namespace Gloss.Terminal

/-- Why a text is not well marked up. -/
inductive MarkupError where
  | unmatchedClose (name : Text)
  | nothingToClose
  | handler (parameters : Text)
  | color (e : ColorError)
  deriving DecidableEq, Repr

def MarkupError.message : MarkupError → Text
  | .unmatchedClose name =>
    "closing tag '[/".toList ++ name ++ "]' doesn't match any open tag".toList
  | .nothingToClose => "closing tag '[/]' has nothing to close".toList
  | .handler parameters => "error parsing ".toList ++ parameters.quoted
  | .color e => e.message

/-- A tag: its name, and the parameters after its equals sign if it has one. -/
structure Tag where
  name : Text
  parameters : Option Text
  deriving DecidableEq, Repr

/-- A stretch of plain text, or a tag. The name of a tag that closes comes without its slash. -/
inductive MarkupPiece where
  | plain (t : Text)
  | opens (tag : Tag)
  | closes (name : Text)
  deriving DecidableEq, Repr

/-- A character that the inside of a tag can begin with. -/
def startsTag (c : Char) : Bool :=
  c.isLower || c = '#' || c = '/' || c = '@'

/-- The inside of the tag that a text begins with, and what follows the tag. -/
def tag? : Text → Option (Text × Text)
  | '[' :: c :: r =>
    if startsTag c then
      match r.dropWhile fun x => x ≠ ']' && x ≠ '[' with
      | ']' :: rest => some (c :: r.takeWhile (fun x => x ≠ ']' && x ≠ '['), rest)
      | _ => none
    else none
  | _ => none

theorem length_lt_of_tag? {t body rest : Text} (h : tag? t = some (body, rest)) :
    rest.length < t.length := by
  unfold tag? at h
  split at h
  · next c r =>
    split at h
    · split at h
      · next rest' hd =>
        have := Text.length_dropWhile_le (fun x => x ≠ ']' && x ≠ '[') r
        rw [hd] at this
        simp only [Option.some.injEq, Prod.mk.injEq] at h
        obtain ⟨-, rfl⟩ := h
        simp only [List.length_cons] at this ⊢
        omega
      · simp at h
    · simp at h
  · simp at h

/-- A backslash before a bracket stands for the bracket alone. -/
def unescapeBrackets : Text → Text
  | '\\' :: '[' :: r => '[' :: unescapeBrackets r
  | c :: r => c :: unescapeBrackets r
  | [] => []

/-- The tag with the given inside. -/
def MarkupPiece.ofTag (body : Text) : MarkupPiece :=
  let name := body.takeWhile (· ≠ '=')
  match name with
  | '/' :: name => .closes name
  | _ => .opens ⟨name, if '=' ∈ body then some (body.drop (name.length + 1)) else none⟩

/-- The number of backslashes that a text begins with. -/
def slashCount (t : Text) : Nat :=
  (t.takeWhile (· = '\\')).length

def slashes (n : Nat) : Text :=
  List.replicate n '\\'

/-- The pieces of a text. `plain` holds the plain text before `t`, in reverse. -/
def markupPieces (plain : Text) (t : Text) : List MarkupPiece :=
  let before : List MarkupPiece := if plain = [] then [] else [.plain plain.reverse]
  match t with
  | [] => before
  | c :: r =>
    match _h : tag? ((c :: r).drop (slashCount (c :: r))) with
    | some (body, rest) =>
      let n := slashCount (c :: r)
      let half : List MarkupPiece := if n < 2 then [] else [.plain (slashes (n / 2))]
      let tag : MarkupPiece := if n % 2 = 1 then .plain ('[' :: body ++ [']']) else .ofTag body
      before ++ half ++ tag :: markupPieces [] rest
    | none =>
      if _hn : slashCount (c :: r) = 0 then markupPieces (c :: plain) r
      else
        markupPieces (slashes (slashCount (c :: r)) ++ plain) ((c :: r).drop (slashCount (c :: r)))
termination_by t.length
decreasing_by
  · have := length_lt_of_tag? _h
    simp only [List.length_drop, List.length_cons] at this ⊢
    omega
  · simp
  · simp only [List.length_drop, List.length_cons]
    omega

namespace Tag

/-- The words of the style that a tag puts on its text. -/
def toText (t : Tag) : Text :=
  match t.parameters with
  | none => t.name
  | some p => t.name ++ ' ' :: p

/-- A tag whose name begins with an at sign names something to do and no style. -/
def isHandler (t : Tag) : Bool :=
  t.name.head? = some '@'

/-- The arguments in the parameters of a handler: those in round brackets at their end, if nothing
but a name with dots stands before that, and the parameters themselves otherwise. -/
def arguments (parameters : Text) : Text :=
  let p := Text.strip parameters
  let rest := p.dropWhile fun c => Text.isWordChar c || c = '.'
  match rest with
  | [] => "()".toList
  | '(' :: _ => if rest.getLast? = some ')' ∧ '\n' ∉ rest then rest else p
  | _ => p

/-- What is wrong with a tag that is closed: the arguments of a handler have to be a literal. -/
def check (t : Tag) : Except MarkupError Unit :=
  match t.parameters with
  | none => .ok ()
  | some p =>
    if t.isHandler && p ≠ [] && !isLiteral (arguments p) then .error (.handler p) else .ok ()

end Tag

/-- An open tag, and how many characters stand before it. -/
structure OpenTag where
  start : Nat
  tag : Tag
  deriving DecidableEq, Repr

/-- The stretch of an open tag that ends after `stop` characters. -/
def OpenTag.close (o : OpenTag) (stop : Nat) : Stretch :=
  ⟨o.start, stop, some o.tag.toText⟩

/-- The tag that a closing tag closes, and the open tags without it. It is the innermost one, or the
innermost of the given name. -/
def closeTag (name : Text) (stack : List OpenTag) : Except MarkupError (OpenTag × List OpenTag) :=
  if Text.strip name = [] then
    match stack with
    | [] => .error .nothingToClose
    | o :: rest => .ok (o, rest)
  else
    match Style.normalize (Text.strip name) with
    | .error e => .error (.color e)
    | .ok style =>
      match stack.find? (·.tag.name = style) with
      | none => .error (.unmatchedClose style)
      | some o => .ok (o, stack.eraseP (·.tag.name = style))

namespace Marked

/-- What pieces show after `start` characters, while tags are open. Of the stretches, those of tags
that are not closed come first, and of the others the one that is closed last. -/
def ofPieces (start : Nat) (stack : List OpenTag) : List MarkupPiece → Except MarkupError Marked
  | [] => .ok ⟨[], stack.reverse.map (·.close start)⟩
  | .plain t :: rest => do
    let shown := unescapeBrackets t
    let m ← ofPieces (start + shown.length) stack rest
    return { m with text := shown ++ m.text }
  | .opens tag :: rest =>
    match Style.normalize tag.name with
    | .error e => .error (.color e)
    | .ok name => ofPieces start (⟨start, { tag with name }⟩ :: stack) rest
  | .closes name :: rest => do
    let (o, stack) ← closeTag name stack
    o.tag.check
    let m ← ofPieces start stack rest
    let stretch := o.close start
    let stretch := if o.tag.isHandler then { stretch with style := none } else stretch
    return { m with stretches := m.stretches ++ [stretch] }

/-- What a text with tags shows. The stretches are in the order of their starts. -/
def ofText (t : Text) : Except MarkupError Marked := do
  let m ← ofPieces 0 [] (markupPieces [] t)
  return { m with stretches := m.stretches.mergeSort fun s s' => s.start ≤ s'.start }

end Marked

/-- A text with backslashes put before what would be read as tags. -/
def escapeTags (t : Text) : Text :=
  match t with
  | [] => []
  | c :: r =>
    match _h : tag? ((c :: r).drop (slashCount (c :: r))) with
    | some (body, rest) =>
      slashes (2 * slashCount (c :: r) + 1) ++ '[' :: body ++ ']' :: escapeTags rest
    | none =>
      if _hn : slashCount (c :: r) = 0 then c :: escapeTags r
      else slashes (slashCount (c :: r)) ++ escapeTags ((c :: r).drop (slashCount (c :: r)))
termination_by t.length
decreasing_by
  · have := length_lt_of_tag? _h
    simp only [List.length_drop, List.length_cons] at this ⊢
    omega
  · simp
  · simp only [List.length_drop, List.length_cons]
    omega

/-- A text in which nothing is read as a tag. A single backslash at the end is doubled, so that it
does not act on a tag that follows. -/
def escape (t : Text) : Text :=
  let e := escapeTags t
  if (slashes 1).isSuffixOf e ∧ ¬(slashes 2).isSuffixOf e then e ++ slashes 1 else e

end Gloss.Terminal
