import Gloss.Terminal.Color
import Gloss.Text.Blank

/-! Styles of text in a terminal, read from words such as `bold not dim red on blue`. Two texts mean
the same style if they have the same canonical text. -/

namespace Gloss.Terminal

/-- A way of drawing text that a style turns on or off. -/
inductive Attribute where
  | bold
  | dim
  | italic
  | underline
  | blink
  | blink2
  | reverse
  | conceal
  | strike
  | underline2
  | frame
  | encircle
  | overline
  deriving DecidableEq, Repr

namespace Attribute

def all : List Attribute :=
  [.bold, .dim, .italic, .underline, .blink, .blink2, .reverse, .conceal, .strike, .underline2,
    .frame, .encircle, .overline]

def name : Attribute → String
  | .bold => "bold"
  | .dim => "dim"
  | .italic => "italic"
  | .underline => "underline"
  | .blink => "blink"
  | .blink2 => "blink2"
  | .reverse => "reverse"
  | .conceal => "conceal"
  | .strike => "strike"
  | .underline2 => "underline2"
  | .frame => "frame"
  | .encircle => "encircle"
  | .overline => "overline"

/-- The short name of an attribute, if it has one. -/
def short? : Attribute → Option String
  | .bold => some "b"
  | .dim => some "d"
  | .italic => some "i"
  | .underline => some "u"
  | .reverse => some "r"
  | .conceal => some "c"
  | .strike => some "s"
  | .underline2 => some "uu"
  | .overline => some "o"
  | _ => none

/-- The attribute of a name, which may be the short one. -/
def ofName? (t : Text) : Option Attribute :=
  all.find? fun a => a.name.toList = t || a.short?.any (·.toList = t)

end Attribute

/-- A style: attributes turned on or off, of which the first entry counts, the two colors and the
address of a link. -/
structure Style where
  attributes : List (Attribute × Bool)
  color : Option Text
  background : Option Text
  link : Option Text
  deriving DecidableEq, Repr

/-- Why a text is no style. -/
inductive StyleError where
  | unknown
  | color (e : ColorError)
  deriving DecidableEq, Repr

namespace Style

def plain : Style := ⟨[], none, none, none⟩

def set (s : Style) (a : Attribute) (on : Bool) : Style :=
  { s with attributes := (a, on) :: s.attributes }

/-- The color that a word has to name. -/
def readColor (word : Text) : Except StyleError Text :=
  match color? word with
  | .ok (some name) => .ok name
  | .ok none => .error .unknown
  | .error e => .error (.color e)

/-- A style with the changes that words make to it, in their order. Case does not matter in a word,
except for one after `not` or `link`. -/
def addWords (s : Style) : List Text → Except StyleError Style
  | [] => .ok s
  | w :: rest =>
    let word := Text.toLower w
    if word = "on".toList then
      match rest with
      | [] => .error .unknown
      | w :: rest => do addWords { s with background := some (← readColor w) } rest
    else if word = "not".toList then
      match rest with
      | [] => .error .unknown
      | w :: rest =>
        match Attribute.ofName? w with
        | some a => addWords (s.set a false) rest
        | none => .error .unknown
    else if word = "link".toList then
      match rest with
      | [] => .error .unknown
      | w :: rest => addWords { s with link := some w } rest
    else
      match Attribute.ofName? word with
      | some a => addWords (s.set a true) rest
      | none => do addWords { s with color := some (← readColor word) } rest

/-- The style that a text describes. -/
def ofText (t : Text) : Except StyleError Style :=
  if Text.strip t = "none".toList then .ok plain else plain.addWords (Text.words t)

/-- The words of an attribute in a style. -/
def attributeWords (s : Style) (a : Attribute) : List Text :=
  match s.attributes.lookup a with
  | some true => [a.name.toList]
  | some false => ["not".toList, a.name.toList]
  | none => []

/-- The canonical text of a style. -/
def toText (s : Style) : Text :=
  let words := Attribute.all.flatMap s.attributeWords ++ s.color.toList ++
    (s.background.map fun c => ["on".toList, c]).getD [] ++
    (s.link.map fun l => ["link".toList, l]).getD []
  if words = [] then "none".toList else Text.join [' '] words

/-- A name that all texts for one style share. A text that describes no style is compared in lower
case. -/
def normalize (t : Text) : Except ColorError Text :=
  match ofText t with
  | .ok s => .ok s.toText
  | .error .unknown => .ok (Text.toLower (Text.strip t))
  | .error (.color e) => .error e

end Style

end Gloss.Terminal
