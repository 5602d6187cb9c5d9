import Gloss.Text.Basic

/-! JSON and how it is written: on several lines, each level indented by two spaces more. -/

namespace Gloss

inductive Json where
  | null
  | number (n : Int)
  | text (t : Text)
  | array (items : List Json)
  | object (fields : List (Text × Json))

namespace Json

/-- A character inside a string. Control characters are escaped, other characters are not. -/
def quotedChar (c : Char) : Text :=
  if c = '"' then ['\\', '"']
  else if c = '\\' then ['\\', '\\']
  else if c = '\n' then ['\\', 'n']
  else if c = '\r' then ['\\', 'r']
  else if c = '\t' then ['\\', 't']
  else if c = '\x08' then ['\\', 'b']
  else if c = '\x0c' then ['\\', 'f']
  else if c.toNat < 0x20 then
    "\\u00".toList ++ [Nat.digitChar (c.toNat / 16), Nat.digitChar (c.toNat % 16)]
  else [c]

/-- A string in quotation marks. -/
def quoted (t : Text) : Text :=
  '"' :: t.flatMap quotedChar ++ ['"']

/-- The start of a line at a depth of nesting. -/
def newline (depth : Nat) : Text :=
  '\n' :: List.replicate (2 * depth) ' '

mutual

/-- A value that stands at a depth of nesting. -/
def write (depth : Nat) : Json → Text
  | .null => "null".toList
  | .number n => Text.ofInt n
  | .text t => quoted t
  | .array [] => ['[', ']']
  | .array (item :: items) =>
    '[' :: newline (depth + 1) ++ write (depth + 1) item ++ writeItems (depth + 1) items ++
      newline depth ++ [']']
  | .object [] => ['{', '}']
  | .object ((name, v) :: fields) =>
    '{' :: newline (depth + 1) ++ quoted name ++ [':', ' '] ++ write (depth + 1) v ++
      writeFields (depth + 1) fields ++ newline depth ++ ['}']

/-- The items of an array after the first. -/
def writeItems (depth : Nat) : List Json → Text
  | [] => []
  | item :: items => ',' :: newline depth ++ write depth item ++ writeItems depth items

/-- The fields of an object after the first. -/
def writeFields (depth : Nat) : List (Text × Json) → Text
  | [] => []
  | (name, v) :: fields =>
    ',' :: newline depth ++ quoted name ++ [':', ' '] ++ write depth v ++ writeFields depth fields

end

/-- An object with fields named by literals. -/
def ofFields (fields : List (String × Json)) : Json :=
  .object (fields.map fun f => (f.1.toList, f.2))

def ofNat (n : Nat) : Json := .number n

end Json

end Gloss
