import Gloss.Text.Digit
import Gloss.Toml.Read

/-! The strings of TOML: basic ones with escapes, literal ones without, on one line or on
several. -/

namespace Gloss.Toml

/-- The character that a one-letter escape stands for. -/
def escape? : Char → Option Char
  | 'b' => some '\x08'
  | 't' => some '\t'
  | 'n' => some '\n'
  | 'f' => some '\x0c'
  | 'r' => some '\r'
  | '"' => some '"'
  | '\\' => some '\\'
  | _ => none

/-- The character whose code point the first `width` characters of `s` write in hexadecimal. -/
def readHexChar (width : Nat) (s : Text) : Option (Char × Text) := do
  let digits ← (s.take width).mapM Text.hexValue?
  let code := digits.foldl (fun n d => n * 16 + d) 0
  if digits.length = width ∧ code.isValidChar then some (Char.ofNat code, s.drop width) else none

/-- The text that an escape stands for, `s` standing after the backslash. On several lines, a
backslash before a line break takes away the white space up to the next character. -/
def readEscape (several : Bool) (s : Text) : Except Error (Read s Text) :=
  match s with
  | [] => .error .malformed
  | c :: r =>
    match escape? c with
    | some x => .ok ⟨[x], r, length_lt_cons c r⟩
    | none =>
      if c = 'u' ∨ c = 'U' then
        match readHexChar (if c = 'u' then 4 else 8) r with
        | some (x, rest) => Read.leaving _ [x] rest
        | none => .error .malformed
      else if several && isSpaceOrBreak c then
        match (c :: r).dropWhile isSpace with
        | [] => Read.leaving _ [] []
        | d :: q =>
          if d = '\n' then Read.leaving _ [] (q.dropWhile isSpaceOrBreak) else .error .malformed
      else .error .malformed

/-- A basic string, `s` standing after the quotes that open it. -/
def readBasic (several : Bool) (s : Text) : Except Error (Read s Text) :=
  match s with
  | [] => .error .malformed
  | c :: r =>
    if c = '"' ∧ !several then .ok ⟨[], r, length_lt_cons c r⟩
    else if c = '"' ∧ ['"', '"'].isPrefixOf r then Read.leaving _ [] (r.drop 2)
    else if c = '\\' then do
      let e := (← readEscape several r).within (length_le_cons c r)
      let more ← readBasic several e.rest
      return (more.map (e.value ++ ·)).within e.rest_le
    else if isControl c && !(several && c = '\n') then .error .malformed
    else do
      let more ← readBasic several r
      return (more.map (c :: ·)).within (length_le_cons c r)
termination_by s.length
decreasing_by
  · exact e.shorter
  · exact length_lt_cons c r

/-- A literal string on one line, `s` standing after the apostrophe that opens it. -/
def readLiteral (s : Text) : Except Error (Read s Text) :=
  let body := s.takeWhile (· ≠ '\'')
  if body.any isControl then .error .malformed
  else
    match s.dropWhile (· ≠ '\'') with
    | [] => .error .malformed
    | _ :: rest => Read.leaving s body rest

/-- A literal string on several lines, `s` standing after the apostrophes that open it. -/
def readLiteralLines (s : Text) : Except Error (Read s Text) :=
  match s with
  | [] => .error .malformed
  | c :: r =>
    if ['\'', '\'', '\''].isPrefixOf (c :: r) then Read.leaving _ [] (r.drop 2)
    else if isControl c && c ≠ '\n' then .error .malformed
    else
      match readLiteralLines r with
      | .ok more => .ok ((more.map (c :: ·)).within (length_le_cons c r))
      | .error e => .error e

/-- A string on several lines may end with up to two quotes more than close it. -/
def Read.withExtra {s : Text} (quote : Char) (r : Read s Text) : Except Error (Read s Text) :=
  let extra := (r.rest.takeWhile (· = quote)).take 2
  Read.leaving s (r.value ++ extra) (r.rest.drop extra.length)

/-- A line break right after the quotes that open a string on several lines is not part of it. -/
def dropFirstBreak (s : Text) : Text :=
  if s.head? = some '\n' then s.drop 1 else s

/-- A string of any of the four kinds. -/
def readString (s : Text) : Except Error (Read s Text) :=
  match s with
  | [] => .error .malformed
  | c :: r =>
    if ['"', '"', '"'].isPrefixOf (c :: r) then do
      let body ← readBasic true (dropFirstBreak (r.drop 2))
      let body ← body.withExtra '"'
      Read.leaving _ body.value body.rest
    else if ['\'', '\'', '\''].isPrefixOf (c :: r) then do
      let body ← readLiteralLines (dropFirstBreak (r.drop 2))
      let body ← body.withExtra '\''
      Read.leaving _ body.value body.rest
    else if c = '"' then return (← readBasic false r).within (length_le_cons c r)
    else if c = '\'' then return (← readLiteral r).within (length_le_cons c r)
    else throw .malformed

end Gloss.Toml
