import Gloss.Text.CharName.A
import Gloss.Text.CharName.B
import Gloss.Text.CharName.C
import Gloss.Text.CharName.DToG
import Gloss.Text.CharName.HToK
import Gloss.Text.CharName.L
import Gloss.Text.CharName.M
import Gloss.Text.CharName.NToR
import Gloss.Text.CharName.S
import Gloss.Text.CharName.TToZ
import Gloss.Text.Digit

/-! The names of the characters of Unicode 14, with the further names that it gives to some of them.
The names of Hangul syllables and of unified ideographs are made of parts. All others stand on
pages, one for each first letter, on which a name is written as its difference from the name before
it. A name matters where a literal in the parameters of a style tag has it after a backslash: with a
name that no character has, the tag cannot be read. -/

namespace Gloss.Text

namespace CharName

/-! ### Pages -/

/-- A name on a page: how many of its first characters are those of the name before it, and its
other characters. -/
structure Entry where
  shared : Nat
  rest : Text
  deriving DecidableEq, Repr

/-- What a small letter counts, from 1 for the first. -/
def letterNumber (c : Char) : Nat :=
  c.toNat - 'a'.toNat + 1

/-- The first entry of a page and those after it, for a page with one more character at its front.
Small letters count what an entry shares, so one of them after a capital letter begins an entry. -/
def addChar (c : Char) (page : Entry × List Entry) : Entry × List Entry :=
  if c.isLower then ({ page.1 with shared := letterNumber c + page.1.shared }, page.2)
  else if page.1.shared = 0 then ({ page.1 with rest := c :: page.1.rest }, page.2)
  else (⟨0, [c]⟩, page.1 :: page.2)

def entries (page : Text) : List Entry :=
  let (first, others) := page.foldr addChar (⟨0, []⟩, [])
  first :: others

/-- The names that entries stand for after the name `previous`. -/
def namesAfter (previous : Text) : List Entry → List Text
  | [] => []
  | e :: es =>
    let name := previous.take e.shared ++ e.rest
    name :: namesAfter name es

/-- The page for names that begin with a letter. -/
def page : Char → List String
  | 'A' => pageA
  | 'B' => pageB
  | 'C' => pageC
  | 'D' => pageD
  | 'E' => pageE
  | 'F' => pageF
  | 'G' => pageG
  | 'H' => pageH
  | 'I' => pageI
  | 'J' => pageJ
  | 'K' => pageK
  | 'L' => pageL
  | 'M' => pageM
  | 'N' => pageN
  | 'O' => pageO
  | 'P' => pageP
  | 'Q' => pageQ
  | 'R' => pageR
  | 'S' => pageS
  | 'T' => pageT
  | 'U' => pageU
  | 'V' => pageV
  | 'W' => pageW
  | 'X' => pageX
  | 'Y' => pageY
  | 'Z' => pageZ
  | _ => []

def isOnPage (name : Text) : Bool :=
  match name with
  | [] => false
  | c :: _ => (namesAfter [] (entries ((page c).flatMap (·.toList)))).contains name

/-! ### Names made of parts -/

/-- The sounds that a Hangul syllable can begin with. -/
def leads : List String :=
  ["G", "GG", "N", "D", "DD", "R", "M", "B", "BB", "S", "SS", "", "J", "JJ", "C", "K", "T", "P",
    "H"]

/-- The vowels of Hangul syllables. -/
def vowels : List String :=
  ["A", "AE", "YA", "YAE", "EO", "E", "YEO", "YE", "O", "WA", "WAE", "OE", "YO", "U", "WEO", "WE",
    "WI", "YU", "EU", "YI", "I"]

/-- The sounds that a Hangul syllable can end with. -/
def tails : List String :=
  ["", "G", "GG", "GS", "N", "NJ", "NH", "D", "L", "LG", "LM", "LB", "LS", "LT", "LP", "LH", "M",
    "B", "BS", "S", "SS", "NG", "J", "C", "K", "T", "P", "H"]

/-- What can follow one of the given parts at the front of a text. -/
def afterPart (parts : List String) (t : Text) : List Text :=
  parts.filterMap fun part => after? part.toList t

def isSyllable (name : Text) : Bool :=
  ([name].flatMap (afterPart ["HANGUL SYLLABLE "]) |>.flatMap (afterPart leads)
    |>.flatMap (afterPart vowels) |>.flatMap (afterPart tails)).contains []

/-- The code points of unified ideographs, as ranges. -/
def ideographRanges : List (Nat × Nat) :=
  [(0x3400, 0x4dbf), (0x4e00, 0x9fff), (0x20000, 0x2a6df), (0x2a700, 0x2b738), (0x2b740, 0x2b81d),
   (0x2b820, 0x2cea1), (0x2ceb0, 0x2ebe0), (0x30000, 0x3134a)]

/-- The name of a unified ideograph ends with its code point in four or five digits. -/
def isIdeograph (name : Text) : Bool :=
  match after? "CJK UNIFIED IDEOGRAPH-".toList name with
  | none => false
  | some digits =>
    (digits.length = 4 || digits.length = 5) &&
      digits.all (fun c => isHexDigit c && !c.isLower) &&
      ideographRanges.any fun r => r.1 ≤ hexNumber digits && hexNumber digits ≤ r.2

end CharName

/-- The text is the name of a character. Case does not matter, except in names made of parts. -/
def isCharName (name : Text) : Bool :=
  CharName.isSyllable name || CharName.isIdeograph name || CharName.isOnPage (name.map Char.toUpper)

end Gloss.Text
