import Gloss.Terminal.Literal.Token
import Gloss.Text.Newline

/-! Literals: numbers, strings, the constants `None`, `True`, `False` and `...`, and tuples, sets
and dictionaries of literals. A token either fits what was read before it or ends the reading; open
brackets wait on a stack. -/

namespace Gloss.Terminal.Literal

/-- What is known of a literal: whether a sign or brackets matter to it. -/
inductive Value where
  | number (signed imaginary : Bool)
  | string (bytes : Bool)
  | setName
  | fixed
  | changeable
  deriving DecidableEq, Repr

namespace Value

/-- The name of the empty set is a literal only with brackets after it. -/
def isComplete (v : Value) : Bool :=
  v ≠ .setName

/-- A literal that can be an element of a set or a key. -/
def isKey (v : Value) : Bool :=
  v ≠ .setName && v ≠ .changeable

/-- A literal in round brackets. A string in them does not go on after them. -/
def bracketed : Value → Value
  | .string _ => .fixed
  | v => v

end Value

/-- What an item has so far: nothing, a sign, a literal, or a real number and a sign after it. -/
inductive Operand where
  | missing
  | signed
  | value (v : Value)
  | sum
  deriving DecidableEq, Repr

namespace Operand

/-- An item with a literal at its end. Signs stand before numbers alone, and what is added to a real
number is an imaginary one without a sign. -/
def add? : Operand → Value → Option Operand
  | .missing, v => some (.value v)
  | .signed, .number false imaginary => some (.value (.number true imaginary))
  | .sum, .number false true => some (.value .fixed)
  | .value (.string bytes), .string more =>
    if bytes = more then some (.value (.string bytes)) else none
  | _, _ => none

/-- An item with a sign at its end. -/
def sign? : Operand → Option Operand
  | .missing => some .signed
  | .value (.number _ false) => some .sum
  | _ => none

end Operand

/-- What stands around items: nothing or round brackets, the brackets after the name of the empty
set, or curly ones. -/
inductive Bracket where
  | outside
  | round
  | call
  | curly
  deriving DecidableEq, Repr

/-- What a pair of curly brackets holds, and for a dictionary what comes next. -/
inductive Braces where
  | unknown
  | set
  | key
  | entry
  deriving DecidableEq, Repr

/-- Items in brackets: whether a comma was read, whether all items before it can be keys, and the
item being read. -/
structure Frame where
  bracket : Bracket
  comma : Bool
  keys : Bool
  braces : Braces
  operand : Operand
  deriving DecidableEq, Repr

namespace Frame

def start (b : Bracket) : Frame :=
  { bracket := b, comma := false, keys := true, braces := .unknown, operand := .missing }

/-- A frame after a comma. -/
def comma? (f : Frame) : Option Frame :=
  match f.operand with
  | .value v =>
    if !v.isComplete then none
    else
      match f.bracket, f.braces with
      | .outside, _ => some { f with comma := true, keys := f.keys && v.isKey, operand := .missing }
      | .round, _ => some { f with comma := true, keys := f.keys && v.isKey, operand := .missing }
      | .call, _ => none
      | .curly, .key => none
      | .curly, .entry => some { f with braces := .key, operand := .missing }
      | .curly, _ => if v.isKey then some { f with braces := .set, operand := .missing } else none
  | _ => none

/-- A frame after the colon of a dictionary. -/
def colon? (f : Frame) : Option Frame :=
  match f.bracket, f.braces, f.operand with
  | .curly, .set, _ => none
  | .curly, .entry, _ => none
  | .curly, _, .value v =>
    if v.isKey then some { f with braces := .entry, operand := .missing } else none
  | _, _, _ => none

/-- The literal that items without brackets or in round ones make: a tuple if there is a comma. -/
def tuple? (f : Frame) : Option Value :=
  match f.comma, f.operand with
  | false, .value v => some v.bracketed
  | true, .value v =>
    if v.isComplete then some (if f.keys && v.isKey then .fixed else .changeable) else none
  | true, .missing => some (if f.keys then .fixed else .changeable)
  | _, _ => none

/-- The literal that items in curly brackets make. -/
def braces? (f : Frame) : Option Value :=
  let complete := match f.braces, f.operand with
    | .unknown, .missing => true
    | .set, .missing => true
    | .key, .missing => true
    | .unknown, .value v => v.isKey
    | .set, .value v => v.isKey
    | .entry, .value v => v.isComplete
    | _, _ => false
  if complete then some .changeable else none

end Frame

/-- The brackets that are open: those around the item being read first. -/
abbrev Stack := List Frame

namespace Stack

/-- The most brackets that can be open at a time. -/
def maxDepth : Nat := 200

def push? (s : Stack) (b : Bracket) : Option Stack :=
  if s.length ≤ maxDepth then some (Frame.start b :: s) else none

/-- The stack with the item being read changed. -/
def change? (s : Stack) (f : Operand → Option Operand) : Option Stack :=
  match s with
  | [] => none
  | top :: rest => (f top.operand).map fun o => { top with operand := o } :: rest

/-- The stack after an opening round bracket. -/
def open? (s : Stack) : Option Stack :=
  match s with
  | [] => none
  | top :: _ =>
    match top.operand with
    | .value .setName => s.push? .call
    | .value _ => none
    | _ => s.push? .round

/-- The stack after a closing round bracket. -/
def close? (s : Stack) : Option Stack :=
  match s with
  | [] => none
  | top :: rest =>
    match top.bracket with
    | .round =>
      if !top.comma && top.operand = .missing then change? rest (·.add? .fixed)
      else do change? rest (·.add? (← top.tuple?))
    | .call =>
      if top.operand = .missing then change? rest fun _ => some (.value .changeable) else none
    | _ => none

/-- The stack after a closing curly bracket. -/
def closeBraces? (s : Stack) : Option Stack :=
  match s with
  | [] => none
  | top :: rest => if top.bracket = .curly then do change? rest (·.add? (← top.braces?)) else none

/-- The stack after a character that is a token of its own. -/
def mark? (s : Stack) (c : Char) : Option Stack :=
  match c, s with
  | '(', _ => s.open?
  | ')', _ => s.close?
  | '{', top :: _ =>
    match top.operand with
    | .value _ => none
    | _ => s.push? .curly
  | '}', _ => s.closeBraces?
  | ',', top :: rest => top.comma?.map (· :: rest)
  | ':', top :: rest => top.colon?.map (· :: rest)
  | '+', _ => s.change? (·.sign?)
  | '-', _ => s.change? (·.sign?)
  | _, _ => none

/-- The stack after a token. Lines end only in brackets. -/
def step? (s : Stack) : Token → Option Stack
  | .number imaginary => s.change? (·.add? (.number false imaginary))
  | .string bytes => s.change? (·.add? (.string bytes))
  | .constant => s.change? (·.add? .fixed)
  | .setName => s.change? (·.add? .setName)
  | .mark c => s.mark? c
  | .lineBreak => if 1 < s.length then some s else none

/-- All brackets are closed and the items are a literal. -/
def isLiteral (s : Stack) : Bool :=
  match s with
  | [f] => f.tuple?.any (·.isComplete)
  | _ => false

end Stack

/-- The tokens of a text, whose first one stands at the start of a line, without the line breaks at
their end. -/
def trimmedTokens? (t : Text) : Option (List Token) := do
  let tokens ← tokens? (← fromFirst? false 0 0 (Text.unifyBreaks t))
  return (tokens.reverse.dropWhile (· = .lineBreak)).reverse

end Literal

/-- The text is a literal. -/
def isLiteral (t : Text) : Bool :=
  let start : Literal.Stack := [Literal.Frame.start .outside]
  match Literal.trimmedTokens? t with
  | some tokens => '\x00' ∉ t && (tokens.foldlM Literal.Stack.step? start).any (·.isLiteral)
  | none => false

end Gloss.Terminal
