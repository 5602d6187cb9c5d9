import Gloss.Text.Numeral

/-! The arguments of the command line. Options may stand before and after the file, their values may
be attached, and of an option given twice the last value counts. -/

namespace Gloss.Command

/-- The options of the command line. -/
inductive Flag where
  | debug
  | root
  | json
  | color
  | language
  | line
  | column
  deriving DecidableEq, Repr

/-- How an option is written: a long name after two hyphens, perhaps a letter after one, and whether
a value belongs to it. -/
structure FlagRule where
  flag : Flag
  long : Text
  short : Option Char
  hasValue : Bool

/-- Arguments sorted: the options with their values, in order, and all else. -/
structure Sorted where
  flags : List (Flag × Text)
  files : List Text

namespace Sorted

def addFlags (s : Sorted) (flags : List (Flag × Text)) : Sorted :=
  { s with flags := flags ++ s.flags }

def addFile (s : Sorted) (file : Text) : Sorted :=
  { s with files := file :: s.files }

/-- The last value given for an option. -/
def value? (s : Sorted) (f : Flag) : Option Text :=
  s.flags.reverse.lookup f

def has (s : Sorted) (f : Flag) : Bool :=
  (s.value? f).isSome

/-- The number given for an option that is needed, if it is 1 or more. -/
def count? (s : Sorted) (f : Flag) : Option Int := do
  let n ← Text.toCount? (← s.value? f)
  return n

end Sorted

/-- What an argument that begins with a hyphen holds: options without values and, after them, an
option that needs one, with the value if it is attached. -/
structure Cluster where
  flags : List Flag
  pending : Option (Flag × Option Text)

/-- The options that letters after one hyphen stand for. What follows the letter of an option with a
value is its value. -/
def readLetters (rules : List FlagRule) : Text → Option Cluster
  | [] => some ⟨[], none⟩
  | c :: r => do
    let rule ← rules.find? (·.short = some c)
    if rule.hasValue then return ⟨[], some (rule.flag, if r = [] then none else some r)⟩
    else
      let cluster ← readLetters rules r
      return { cluster with flags := rule.flag :: cluster.flags }

/-- The options of an argument that begins with a hyphen. The value of a long option may follow an
equals sign. -/
def readCluster (rules : List FlagRule) (arg : Text) : Option Cluster :=
  let name := arg.takeWhile (· ≠ '=')
  let attached := if '=' ∈ arg then some (arg.drop (name.length + 1)) else none
  match rules.find? (·.long = name) with
  | some rule =>
    if rule.hasValue then some ⟨[], some (rule.flag, attached)⟩
    else if attached.isSome then none
    else some ⟨[rule.flag], none⟩
  | none => if ['-', '-'].isPrefixOf arg then none else readLetters rules (arg.drop 1)

/-- The options of a cluster with their values, and the arguments left: a value that is needed and
not attached is the next argument, whatever that looks like. -/
def Cluster.settle? (c : Cluster) (rest : List Text) : Option (List (Flag × Text) × List Text) :=
  let flags := c.flags.map (·, [])
  match c.pending, rest with
  | none, rest => some (flags, rest)
  | some (f, some value), rest => some (flags ++ [(f, value)], rest)
  | some (f, none), value :: rest => some (flags ++ [(f, value)], rest)
  | some (_, none), [] => none

theorem Cluster.length_le_of_settle? {c : Cluster} {rest left : List Text}
    {flags : List (Flag × Text)} (h : c.settle? rest = some (flags, left)) :
    left.length ≤ rest.length := by
  unfold Cluster.settle? at h
  split at h <;> simp_all

/-- The arguments sorted. Two hyphens alone end the options; without `mixed`, so does the first
argument that is no option. -/
def sortArguments (rules : List FlagRule) (mixed : Bool) (args : List Text) : Option Sorted :=
  match args with
  | [] => some ⟨[], []⟩
  | arg :: rest =>
    if arg = ['-', '-'] then some ⟨[], rest⟩
    else if arg.head? = some '-' ∧ arg ≠ ['-'] then
      match readCluster rules arg with
      | none => none
      | some cluster =>
        match _h : cluster.settle? rest with
        | none => none
        | some (flags, left) => (sortArguments rules mixed left).map (·.addFlags flags)
    else if mixed then (sortArguments rules mixed rest).map (·.addFile arg)
    else some ⟨[], arg :: rest⟩
termination_by args.length
decreasing_by
  · have := Cluster.length_le_of_settle? _h
    simp only [List.length_cons]
    omega
  · simp

/-- What can be asked on the command line. Lines and columns are counted from 1. -/
inductive Query where
  | notes (root : Option Text) (json : Bool)
  | highlight (file : Text) (root color language : Option Text) (json : Bool)
  | hover (file : Text) (line column : Int) (root : Option Text) (json : Bool)
  | definition (file : Text) (line column : Int) (root : Option Text) (json : Bool)
  | version
  deriving DecidableEq, Repr

namespace Query

def debugRule : FlagRule := ⟨.debug, "--debug".toList, none, false⟩
def rootRule : FlagRule := ⟨.root, "--root".toList, some 'r', true⟩
def jsonRule : FlagRule := ⟨.json, "--json".toList, none, false⟩
def colorRule : FlagRule := ⟨.color, "--color".toList, some 'c', true⟩
def languageRule : FlagRule := ⟨.language, "--language".toList, none, true⟩
def lineRule : FlagRule := ⟨.line, "--line".toList, some 'l', true⟩
def columnRule : FlagRule := ⟨.column, "--column".toList, some 'c', true⟩

/-- The options of a question about a place in a file. -/
def placeRules : List FlagRule := [lineRule, columnRule, rootRule, jsonRule]

/-- The file, line, column, root and form of output of a question about a place in a file. -/
def readPlace (args : List Text) : Option (Text × Int × Int × Option Text × Bool) := do
  let s ← sortArguments placeRules true args
  match s.files with
  | [file] => return (file, ← s.count? .line, ← s.count? .column, s.value? .root, s.has .json)
  | _ => none

/-- The question of a command with its arguments. -/
def ofCommand (command : String) (args : List Text) : Option Query :=
  match command with
  | "notes" => do
    let s ← sortArguments [rootRule, jsonRule] true args
    if s.files = [] then return .notes (s.value? .root) (s.has .json) else none
  | "highlight" => do
    let s ← sortArguments [rootRule, colorRule, languageRule, jsonRule] true args
    match s.files with
    | [file] =>
      return .highlight file (s.value? .root) (s.value? .color) (s.value? .language) (s.has .json)
    | _ => none
  | "hover" => do
    let (file, line, column, root, json) ← readPlace args
    return .hover file line column root json
  | "definition" => do
    let (file, line, column, root, json) ← readPlace args
    return .definition file line column root json
  | "version" => do
    let s ← sortArguments [] true args
    if s.files = [] then return .version else none
  | _ => none

/-- The question that a command line asks. -/
def ofArguments (args : List Text) : Option Query := do
  let s ← sortArguments [debugRule] false args
  match s.files with
  | command :: rest => ofCommand (String.ofList command) rest
  | [] => none

end Query

end Gloss.Command
