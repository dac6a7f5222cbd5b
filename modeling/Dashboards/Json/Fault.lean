import Dashboards.Text.Quoted
import Dashboards.Number.Layout

/-!
# What can be wrong with a JSON text

A fault names the problem and the place where it was noticed. Lines are counted from one; the column
is the number of bytes of the line that were read.
-/

namespace Dashboards.Json

/-- A place in a text. -/
structure Place where
  line : Nat := 1
  column : Nat := 0
deriving DecidableEq, Inhabited

/-- What a reader came upon. -/
inductive Found where
  | null
  | bool (value : Bool)
  | int (value : Int)
  | float (value : Binary64)
  | string (value : String)
  | array
  | object
deriving DecidableEq

/-- The words for what was found. -/
def Found.describe : Found → String
  | null => "null"
  | bool value => s!"boolean `{value}`"
  | int value => s!"integer `{value}`"
  | float value => "floating point `" ++ NumberLayout.answer.render value ++ "`"
  | string value => "string " ++ Text.quote value
  | array => "sequence"
  | object => "map"

/-- The problems of a text. -/
inductive Problem where
  | endInArray | endInObject | endInString | endInValue
  | colonMissing | arrayCloseMissing | objectCloseMissing | wordMissing | valueMissing
  | escapeUnknown | numberMalformed | numberOutOfRange | controlCharacter | keyNoString
  | surrogateAlone | surrogateEnd | commaTrailing | charactersTrailing | nestedTooDeep
  /-- A value of another type than asked for. -/
  | wrongType (found : Found) (expected : String)
  /-- A value that is not among those allowed. -/
  | wrongValue (found : Found) (expected : String)
  | missingField (name : String)
  | duplicateField (name : String)
  /-- An array with too few elements. -/
  | wrongLength (length : Nat) (expected : String)
deriving DecidableEq

/-- The words for a problem. -/
def Problem.text : Problem → String
  | endInArray => "EOF while parsing a list"
  | endInObject => "EOF while parsing an object"
  | endInString => "EOF while parsing a string"
  | endInValue => "EOF while parsing a value"
  | colonMissing => "expected `:`"
  | arrayCloseMissing => "expected `,` or `]`"
  | objectCloseMissing => "expected `,` or `\x7d`"
  | wordMissing => "expected ident"
  | valueMissing => "expected value"
  | escapeUnknown => "invalid escape"
  | numberMalformed => "invalid number"
  | numberOutOfRange => "number out of range"
  | controlCharacter => "control character (\\u0000-\\u001F) found while parsing a string"
  | keyNoString => "key must be a string"
  | surrogateAlone => "lone leading surrogate in hex escape"
  | surrogateEnd => "unexpected end of hex escape"
  | commaTrailing => "trailing comma"
  | charactersTrailing => "trailing characters"
  | nestedTooDeep => "recursion limit exceeded"
  | wrongType found expected => s!"invalid type: {found.describe}, expected {expected}"
  | wrongValue found expected => s!"invalid value: {found.describe}, expected {expected}"
  | missingField name => s!"missing field `{name}`"
  | duplicateField name => s!"duplicate field `{name}`"
  | wrongLength length expected => s!"invalid length {length}, expected {expected}"

/-- A problem with the place where it was noticed. -/
structure Fault where
  problem : Problem
  place : Place
deriving DecidableEq

/-- The text of a fault. -/
def Fault.message (fault : Fault) : String :=
  s!"{fault.problem.text} at line {fault.place.line} column {fault.place.column}"

end Dashboards.Json
