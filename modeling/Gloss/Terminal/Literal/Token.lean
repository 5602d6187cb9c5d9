import Gloss.Text.CharName
import Gloss.Text.Numeral

/-! The tokens of literals: numbers, strings, names and single characters. A number is whole, a
fraction or imaginary; a string stands for text or for bytes. -/

namespace Gloss.Terminal.Literal

inductive Token where
  | number (imaginary : Bool)
  | string (bytes : Bool)
  | constant
  | setName
  | mark (c : Char)
  | lineBreak
  deriving DecidableEq, Repr

/-! ### Numbers -/

/-- The characters of a number at the front of a text, `last` being the one before it. A sign
belongs to it after the letter of an exponent, if it can have one. -/
def numberChars (exponents : Bool) (last : Char) : Text → Text
  | [] => []
  | c :: r =>
    if c.isAlphanum || c = '_' || c = '.' ||
        (exponents && (c = '+' || c = '-') && (last = 'e' || last = 'E')) then
      c :: numberChars exponents c r
    else []

/-- The digits after the sign that binary, octal and hexadecimal numbers begin with. -/
def radixDigits? : Text → Option ((Char → Bool) × Text)
  | '0' :: x :: r =>
    if x = 'x' ∨ x = 'X' then some (Text.isHexDigit, r)
    else if x = 'o' ∨ x = 'O' then some (fun c => '0' ≤ c && c ≤ '7', r)
    else if x = 'b' ∨ x = 'B' then some (fun c => c = '0' || c = '1', r)
    else none
  | _ => none

/-- A text without the underscore that it begins with, if it does. -/
def dropUnderscore (t : Text) : Text :=
  if t.head? = some '_' then t.tail else t

/-- A whole number begins with a zero only if it is zero, and has not too many digits. -/
def isWhole (t : Text) : Bool :=
  Text.isGrouped (·.isDigit) t &&
    if t.head? = some '0' then t.all fun c => c = '0' || c = '_'
    else t.countP (·.isDigit) ≤ Text.maxDigits

/-- Digits, which may be missing. -/
def isGroupedOrEmpty (t : Text) : Bool :=
  t = [] || Text.isGrouped (·.isDigit) t

/-- Digits around a point, or without one if there is an exponent. -/
def isFraction (t : Text) : Bool :=
  let front := t.takeWhile fun c => c ≠ 'e' && c ≠ 'E'
  let power := (t.drop front.length).tail
  let powerDigits := if power.head? = some '+' ∨ power.head? = some '-' then power.tail else power
  let whole := front.takeWhile (· ≠ '.')
  let part := (front.drop whole.length).tail
  isGroupedOrEmpty whole && isGroupedOrEmpty part && !(whole = [] && part = []) &&
    if front.length = t.length then '.' ∈ t else Text.isGrouped (·.isDigit) powerDigits

/-- The token of a number, if the text is one. -/
def number? (t : Text) : Option Token :=
  match radixDigits? t with
  | some (isDigit, digits) =>
    if Text.isGrouped isDigit (dropUnderscore digits) then some (.number false) else none
  | none =>
    if t.getLast? = some 'j' ∨ t.getLast? = some 'J' then
      let body := t.dropLast
      if Text.isGrouped (·.isDigit) body || isFraction body then some (.number true) else none
    else if isWhole t || isFraction t then some (.number false)
    else none

/-! ### Strings -/

/-- How a string is written: with escapes or raw, for text or for bytes, and with one or three of
its quotes at each end. -/
structure StringForm where
  raw : Bool
  bytes : Bool
  quote : Char
  triple : Bool

/-- `r` begins with the number of hexadecimal digits that an escape needs. -/
def hasHexDigits (n : Nat) (r : Text) : Bool :=
  (r.take n).length = n && (r.take n).all Text.isHexDigit

/-- `r` begins with the name of a character in curly brackets. -/
def hasCharName (r : Text) : Bool :=
  match r with
  | '{' :: rest =>
    let name := rest.takeWhile (· ≠ '}')
    name.length < rest.length && Text.isCharName name
  | _ => false

/-- A backslash may stand before `c` and `r`. -/
def StringForm.allowsEscape (f : StringForm) (c : Char) (r : Text) : Bool :=
  f.raw ||
    if c = 'x' then hasHexDigits 2 r
    else if f.bytes then true
    else if c = 'u' then hasHexDigits 4 r
    else if c = 'U' then hasHexDigits 8 r && Text.hexNumber (r.take 8) ≤ 0x10ffff
    else c ≠ 'N' || hasCharName r

/-- A character that the kind of string can hold. -/
def StringForm.allows (f : StringForm) (c : Char) : Bool :=
  !f.bytes || c.toNat < 128

/-- What follows the end of a string, `s` standing after the quotes that open it. -/
def StringForm.after? (f : StringForm) (s : Text) : Option Text :=
  match s with
  | [] => none
  | c :: r =>
    if c = f.quote ∧ !f.triple then some r
    else if c = f.quote ∧ [f.quote, f.quote].isPrefixOf r then some (r.drop 2)
    else if c = '\\' then
      match r with
      | [] => none
      | d :: rest => if f.allows d && f.allowsEscape d rest then f.after? rest else none
    else if f.allows c && (f.triple || c ≠ '\n') then f.after? r
    else none

/-- The form of a string with the letters `kind` before its quote, `r` standing after that. -/
def StringForm.ofKind? (kind : Text) (quote : Char) (r : Text) : Option StringForm :=
  let triple := [quote, quote].isPrefixOf r
  match String.ofList (kind.map Char.toLower) with
  | "" | "u" => some ⟨false, false, quote, triple⟩
  | "r" => some ⟨true, false, quote, triple⟩
  | "b" => some ⟨false, true, quote, triple⟩
  | "br" | "rb" => some ⟨true, true, quote, triple⟩
  | _ => none

/-! ### Tokens -/

/-- The forms that a small letter has beside its own, as code points; those of the mathematical
alphabets are not among them. -/
def letterForms : Char → List Nat
  | 'e' => [0x1d49, 0x2091, 0x212f, 0x2147, 0xff45]
  | 's' => [0x17f, 0x2e2, 0x209b, 0xff53]
  | 't' => [0x1d57, 0x209c, 0xff54]
  | _ => []

/-- A character is a small letter of a mathematical alphabet. Each of these has 26 capital letters
and then 26 small ones; the script `e` stands elsewhere. -/
def isMathLetter (letter c : Char) : Bool :=
  0x1d400 ≤ c.toNat && c.toNat ≤ 0x1d6a3 && c.toNat ≠ 0x1d4ba &&
    (c.toNat - 0x1d400) % 52 = 26 + (letter.toNat - 'a'.toNat)

/-- A character is a small letter in one of its forms. -/
def isFormOf (letter c : Char) : Bool :=
  c = letter || c.toNat ∈ letterForms letter || isMathLetter letter c

/-- The token of a name. The letters of the empty set's name can have other forms. -/
def name? (t : Text) : Option Token :=
  match t with
  | [s, e, t] => if isFormOf 's' s && isFormOf 'e' e && isFormOf 't' t then some .setName else none
  | _ => if String.ofList t ∈ ["None", "True", "False"] then some .constant else none

/-- The characters of names. -/
def isNameChar (c : Char) : Bool :=
  c.isAlphanum || c = '_' || 128 ≤ c.toNat

/-- The token at the front of a text, and what follows it. Spaces come before no token. -/
def first? (s : Text) : Option (Token × Text) :=
  match s with
  | [] => none
  | c :: r =>
    if c = '\n' then some (.lineBreak, r)
    else if ['.', '.', '.'].isPrefixOf s then some (.constant, s.drop 3)
    else if c.isDigit || (c = '.' && r.head?.any (·.isDigit)) then
      let hexadecimal := c = '0' && (r.head? = some 'x' || r.head? = some 'X')
      let chars := numberChars (!hexadecimal) ' ' s
      (number? chars).map (·, s.drop chars.length)
    else if c ∈ ['(', ')', '{', '}', ',', ':', '+', '-'] then some (.mark c, r)
    else
      let letters := s.takeWhile isNameChar
      match s.drop letters.length with
      | [] => (name? letters).map (·, [])
      | q :: rest =>
        if q = '"' ∨ q = '\'' then do
          let form ← StringForm.ofKind? letters q rest
          let left ← form.after? (if form.triple then rest.drop 2 else rest)
          return (.string form.bytes, left)
        else (name? letters).map (·, q :: rest)

/-- A text without the spaces, comments and joined line ends at its front. -/
def skipSpace (s : Text) : Text :=
  match s with
  | [] => []
  | c :: r =>
    if c = ' ' ∨ c = '\t' ∨ c = '\x0c' then skipSpace r
    else if c = '#' then r.dropWhile (· ≠ '\n')
    else if c = '\\' then
      match r with
      | '\n' :: d :: rest => skipSpace (d :: rest)
      | _ => s
    else s

theorem length_skipSpace_le (s : Text) : (skipSpace s).length ≤ s.length := by
  fun_induction skipSpace s <;> simp_all <;> try omega
  exact Nat.le_succ_of_le (Text.length_dropWhile_le _ _)

/-- A text from its first token on. Lines without a token may come before that, and it has to stand
at the start of its own line: `column` is where the margin has come to, a tab ending at each eighth
column and a form feed starting it anew. In a line joined of several, `joined` is where the margin
came to before the first join, and counts instead. -/
def fromFirst? (comment : Bool) (column joined : Nat) : Text → Option Text
  | [] => some []
  | c :: r =>
    if c = '\n' then fromFirst? false 0 0 r
    else if comment || c = '#' then fromFirst? true column joined r
    else if c = ' ' then fromFirst? false (column + 1) joined r
    else if c = '\t' then fromFirst? false (column / 8 * 8 + 8) joined r
    else if c = '\x0c' then fromFirst? false 0 joined r
    else if c = '\\' then
      match r with
      | '\n' :: d :: rest =>
        fromFirst? false column (if joined = 0 then column else joined) (d :: rest)
      | _ => none
    else if (if joined = 0 then column else joined) = 0 then some (c :: r)
    else none

/-- The tokens of a text. -/
def tokens? (s : Text) : Option (List Token) :=
  match _h : skipSpace s with
  | [] => some []
  | c :: r => do
    let (t, rest) ← first? (c :: r)
    if _hr : rest.length < (c :: r).length then
      let ts ← tokens? rest
      return t :: ts
    else none
termination_by s.length
decreasing_by
  have := length_skipSpace_le s
  rw [_h] at this
  omega

end Gloss.Terminal.Literal
