import Gloss.Line

/-! A note entry: a key, the text filed under it, and where it is defined. -/

namespace Gloss

/-- The bracket that opens a key. -/
def opening : Char := '【'

/-- The bracket that closes a key. -/
def closing : Char := '】'

/-- The note `value` filed under `key`. Its marker stands on the line `definition` of the note
source named `source`. -/
structure Entry where
  key : Text
  value : Text
  source : Text
  definition : LineSpan
  deriving DecidableEq, Repr

end Gloss
