import Dashboards.Number.Binary64
import Dashboards.Text.Digits
import Dashboards.Yaml.Token.Basic

/-!
# The types of scalars

A plain scalar without a tag has the type that its text suggests: null, a boolean, an integer in one
of four bases, a floating-point number, or else a text. A number with a superfluous zero in front is
a text. A tag of the core schema forces the type, and the text has to fit it.
-/

namespace Dashboards.Yaml

/-- A scalar with its type. -/
inductive Scalar where
  | null
  | bool (value : Bool)
  | int (value : Int)
  /-- A zero with a minus sign. -/
  | minusZero
  /-- An integer that takes more than 64 bits. -/
  | wideInt (value : Int)
  | float (value : Binary64)
  | text (value : String)
deriving DecidableEq, Inhabited

namespace Scalar

/-- Whether a text is one of the words for null. -/
def isNullWord (cs : List Char) : Bool :=
  cs == ['n', 'u', 'l', 'l'] || cs == ['N', 'u', 'l', 'l'] || cs == ['N', 'U', 'L', 'L'] ||
    cs == ['~']

/-- The boolean that a word means. -/
def bool? (cs : List Char) : Option Bool :=
  if cs = ['t', 'r', 'u', 'e'] ∨ cs = ['T', 'r', 'u', 'e'] ∨
      cs = ['T', 'R', 'U', 'E'] then some true
  else if cs = ['f', 'a', 'l', 's', 'e'] ∨ cs = ['F', 'a', 'l', 's', 'e'] ∨
      cs = ['F', 'A', 'L', 'S', 'E'] then some false
  else none

/-- Takes a plus sign off the front. -/
def unsigned : List Char → List Char
  | '+' :: rest => rest
  | cs => cs

/-- Whether a text consists of digits, a sign in front apart, and begins with a superfluous zero. -/
def hasSpareZero (cs : List Char) : Bool :=
  let digits := match cs with
    | '-' :: rest | '+' :: rest => rest
    | cs => cs
  match digits with
  | '0' :: rest => !rest.isEmpty && rest.all Char.isDigit
  | _ => false

/-- The number that a text in a base other than ten means. -/
def based? : List Char → Option Nat
  | '0' :: 'x' :: rest => Text.numeral? 16 rest
  | '0' :: 'o' :: rest => Text.numeral? 8 rest
  | '0' :: 'b' :: rest => Text.numeral? 2 rest
  | _ => none

/-- The number that a text without sign means. -/
def natural? (cs : List Char) : Option Nat :=
  based? cs <|> if hasSpareZero cs then none else Text.numeral? 10 cs

/-- The integer that a text means, of any size. -/
def int? : List Char → Option Int
  | '-' :: rest => (natural? rest).map fun n => -(n : Int)
  | cs => (natural? (unsigned cs)).map fun n => (n : Int)

/-- Whether an integer fits into a number of bits, one of which is the sign if the integer is
negative. -/
def fitsBits (bits : Nat) : Int → Bool
  | .ofNat n => n < Nat.pow 2 bits
  | .negSucc n => n < Nat.pow 2 (bits - 1)

/-- The integer that a text means, by its size. Beyond 128 bits there is none. -/
def sizedInt? (cs : List Char) : Option Scalar :=
  (int? cs).bind fun n =>
    if n = 0 ∧ cs.head? = some '-' then some .minusZero
    else if fitsBits 64 n then some (.int n)
    else if fitsBits 128 n then some (.wideInt n)
    else none

/-- The digits of a decimal and the text behind them. -/
def splitDigits (cs : List Char) : List Char × List Char :=
  (cs.takeWhile Char.isDigit, cs.dropWhile Char.isDigit)

/-- The power of ten at the end of a decimal. -/
def power? : List Char → Option Int
  | [] => some 0
  | c :: rest =>
    if c == 'e' || c == 'E' then
      match rest with
      | '-' :: digits => (Text.numeral? 10 digits).map fun n => -(n : Int)
      | digits => (Text.numeral? 10 (unsigned digits)).map fun n => (n : Int)
    else none

/-- The number that a decimal without sign means. One digit at least stands on a side of the
point. -/
def decimal? (negative : Bool) (cs : List Char) : Option Binary64 :=
  let (whole, behind) := splitDigits cs
  let (fraction, behind) := match behind with
    | '.' :: rest => splitDigits rest
    | behind => ([], behind)
  match Text.numeral? 10 (whole ++ fraction), power? behind with
  | some n, some power => some (Binary64.ofDecimal negative n (power - fraction.length))
  | _, _ => none

/-- The words for infinity without a sign. -/
def isInfinityWord (cs : List Char) : Bool :=
  cs == ['.', 'i', 'n', 'f'] || cs == ['.', 'I', 'n', 'f'] || cs == ['.', 'I', 'N', 'F']

/-- The words for no number. -/
def isNanWord (cs : List Char) : Bool :=
  cs == ['.', 'n', 'a', 'n'] || cs == ['.', 'N', 'a', 'N'] || cs == ['.', 'N', 'A', 'N']

/-- The floating-point number that a text means. A decimal beyond the range means none. -/
def float? (cs : List Char) : Option Binary64 :=
  if isInfinityWord (unsigned cs) then some (.infinite false)
  else if isNanWord cs then some .nan
  else
    match cs with
    | '-' :: rest =>
      if isInfinityWord rest then some (.infinite true)
      else (decimal? true rest).filter (·.isFinite)
    | cs => (decimal? false (unsigned cs)).filter (·.isFinite)

/-- The type and value of a plain scalar without a tag. -/
def ofPlain (text : String) : Scalar :=
  let cs := text.toList
  if cs.isEmpty || isNullWord cs then .null
  else
    match bool? cs, sizedInt? cs with
    | some b, _ => .bool b
    | none, some n => n
    | none, none =>
      match if hasSpareZero cs then none else float? cs with
      | some x => .float x
      | none => .text text

/-- A type that a tag forces on a scalar. -/
inductive Forced where
  | bool | int | float | null
deriving DecidableEq

/-- The type that a tag forces, if it forces one. -/
def Forced.ofTag? (tag : Tag) : Option Forced :=
  if tag = .ofText "tag:yaml.org,2002:bool" then some .bool
  else if tag = .ofText "tag:yaml.org,2002:int" then some .int
  else if tag = .ofText "tag:yaml.org,2002:float" then some .float
  else if tag = .ofText "tag:yaml.org,2002:null" then some .null
  else none

/-- What a forced type asks for, in messages. -/
def Forced.expected : Forced → String
  | bool => "a boolean"
  | int => "an integer"
  | float => "a float"
  | null => "null"

/-- The value of a text that a tag forces to a type, if it fits. -/
def ofForced? (text : String) : Forced → Option Scalar
  | .bool => (bool? text.toList).map .bool
  | .int => sizedInt? text.toList
  | .float => (float? text.toList).map .float
  | .null => if isNullWord text.toList then some .null else none

/-- Takes the exclamation mark off the front of a text, unless nothing would be left. -/
def dropBang : List Char → List Char
  | '!' :: c :: rest => c :: rest
  | cs => cs

/-- The name of a tag if it is local and has a text. -/
def localTag? (tag : Tag) : Option String :=
  if tag.isLocal then
    tag.text?.map fun text => String.ofList (dropBang (dropBang text.toList))
  else none

/-- The type and value of a scalar, or the type that its tag asks for in vain. `applied` tells that
the tag has had its effect already. -/
def resolve (tag : Option Tag) (applied : Bool) (style : ScalarStyle) (text : String) :
    Except Forced Scalar :=
  let byText := if style = .plain then ofPlain text else .text text
  match if applied then none else tag with
  | none => .ok byText
  | some tag =>
    match Forced.ofTag? tag with
    | some forced =>
      match ofForced? text forced with
      | some scalar => .ok scalar
      | none => .error forced
    | none => .ok (if tag.isLocal then byText else .text text)

end Scalar

end Dashboards.Yaml
