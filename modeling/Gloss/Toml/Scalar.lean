import Gloss.Text.Digit
import Gloss.Toml.Read

/-! The numbers, booleans, dates and times of TOML. Only where each ends matters, and whether it is
one at all. -/

namespace Gloss.Toml

/-- What follows further digits of a number, each of which one underscore may come before. -/
def skipDigits (digit : Char → Bool) : Text → Text
  | [] => []
  | [c] => if digit c then [] else [c]
  | c :: d :: r =>
    if digit c then skipDigits digit (d :: r)
    else if c = '_' && digit d then skipDigits digit r
    else c :: d :: r

/-- What follows one digit or more, if `t` begins with a digit. -/
def afterDigits? (digit : Char → Bool) : Text → Option Text
  | [] => none
  | c :: r => if digit c then some (skipDigits digit r) else none

/-- What follows the sign that `t` may begin with. -/
def skipSign : Text → Text
  | '+' :: r => r
  | '-' :: r => r
  | t => t

/-- What follows a whole number in base 16, 2 or 8. -/
def afterRadix? : Text → Option Text
  | '0' :: 'x' :: r => afterDigits? Text.isHexDigit r
  | '0' :: 'b' :: r => afterDigits? (fun c => c = '0' || c = '1') r
  | '0' :: 'o' :: r => afterDigits? (fun c => '0' ≤ c && c ≤ '7') r
  | _ => none

/-- What follows a decimal whole number. It begins with 0 only if it is 0. -/
def afterInteger? (t : Text) : Option Text :=
  match skipSign t with
  | '0' :: r => some r
  | r => afterDigits? Char.isDigit r

/-- What follows the fraction that `t` may begin with. -/
def skipFraction (t : Text) : Text :=
  match t with
  | '.' :: r => (afterDigits? Char.isDigit r).getD t
  | _ => t

/-- What follows the exponent that `t` may begin with. -/
def skipExponent (t : Text) : Text :=
  match t with
  | c :: r => if c = 'e' || c = 'E' then (afterDigits? Char.isDigit (skipSign r)).getD t else t
  | [] => t

/-- A number in digits. -/
def readNumber (s : Text) : Option (Except Error Text) :=
  match afterRadix? s with
  | some r => some (.ok r)
  | none =>
    (afterInteger? s).map fun r =>
      let rest := skipExponent (skipFraction r)
      let digits := (s.take (s.length - r.length)).countP (·.isDigit)
      if rest.length = r.length ∧ Text.maxDigits < digits then .error (.oversized digits) else .ok rest

/-- The number that `width` digits write, if it lies between `low` and `high`. -/
def readField (width low high : Nat) (t : Text) : Option (Nat × Text) :=
  let digits := t.take width
  let n := digits.foldl (fun n c => n * 10 + (c.toNat - '0'.toNat)) 0
  if digits.length = width ∧ digits.all Char.isDigit ∧ low ≤ n ∧ n ≤ high then
    some (n, t.drop width)
  else none

/-- The days of a month. -/
def daysIn (year month : Nat) : Nat :=
  if month = 2 then
    if year % 4 = 0 ∧ (year % 100 ≠ 0 ∨ year % 400 = 0) then 29 else 28
  else if month = 4 ∨ month = 6 ∨ month = 9 ∨ month = 11 then 30
  else 31

/-- Whether there is such a day, and what follows the date. -/
def readDate (t : Text) : Option (Bool × Text) := do
  let (year, t) ← readField 4 0 9999 t
  let t ← Text.after? ['-'] t
  let (month, t) ← readField 2 1 12 t
  let t ← Text.after? ['-'] t
  let (day, t) ← readField 2 1 31 t
  return (1 ≤ year && day ≤ daysIn year month, t)

/-- What follows a time of day. -/
def afterTime? (t : Text) : Option Text := do
  let (_, t) ← readField 2 0 23 t
  let t ← Text.after? [':'] t
  let (_, t) ← readField 2 0 59 t
  let t ← Text.after? [':'] t
  let (_, t) ← readField 2 0 59 t
  match t with
  | '.' :: c :: r => return if c.isDigit then r.dropWhile Char.isDigit else t
  | _ => return t

/-- What follows an offset from universal time. -/
def afterOffset? (t : Text) : Option Text :=
  match t with
  | [] => none
  | c :: r =>
    if c = 'Z' ∨ c = 'z' then some r
    else if c = '+' ∨ c = '-' then do
      let (_, t) ← readField 2 0 23 r
      let t ← Text.after? [':'] t
      let (_, t) ← readField 2 0 59 t
      return t
    else none

/-- What follows the time that may stand after a date. -/
def skipTime (t : Text) : Text :=
  match t with
  | [] => t
  | c :: r =>
    if c = 'T' ∨ c = 't' ∨ c = ' ' then
      match afterTime? r with
      | some rest => (afterOffset? rest).getD rest
      | none => t
    else t

/-- What follows one of the words of TOML. -/
def afterWord? (t : Text) : Option Text :=
  ["true", "false", "inf", "nan", "+inf", "-inf", "+nan", "-nan"].findSome? fun word =>
    Text.after? word.toList t

/-- A number, boolean, date or time. -/
def readScalar (s : Text) : Except Error (Read s Unit) :=
  match readDate s with
  | some (valid, r) => if valid then Read.leaving s () (skipTime r) else .error .malformed
  | none =>
    match afterTime? s, readNumber s, afterWord? s with
    | some r, _, _ => Read.leaving s () r
    | none, some (.ok r), _ => Read.leaving s () r
    | none, some (.error e), _ => .error e
    | none, none, some r => Read.leaving s () r
    | none, none, none => .error .malformed

end Gloss.Toml
