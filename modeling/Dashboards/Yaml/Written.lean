import Dashboards.Text.Blank
import Dashboards.Text.PercentEncoded
import Dashboards.Yaml.Outline

/-!
# Written values

How messages write a raw value: as a document would hold it, in block style, with collections
indented by two columns and a sequence under a key not indented. A text is written plainly where it
would be read back as the same text, and else in quotes; a text of several lines is a literal block.
A value that holds a mapping without a written form (`isWritable`) is shown by its outline.
-/

namespace Dashboards.Yaml.Written

/-! ## Texts -/

/-- Whether a character is written as itself: the visible characters, the line feed and the space,
but no byte order mark. -/
def isPrintable (c : Char) : Bool :=
  let n := c.toNat
  n == 0xA || (0x20 ≤ n && n ≤ 0x7E) || (0xA0 ≤ n && n ≤ 0xFFFD && n != 0xFEFF) || 0x10000 ≤ n

/-- Whether two characters that satisfy these conditions follow each other. -/
def hasPair (p q : Char → Bool) (cs : List Char) : Bool :=
  (cs.zip cs.tail).any fun pair => p pair.1 && q pair.2

/-- Whether a text that begins with this character may not be plain. -/
def isLeadingIndicator (c : Char) : Bool :=
  c == '#' || c == ',' || c == '[' || c == ']' || c == '\x7b' || c == '\x7d' || c == '&' ||
    c == '*' || c == '!' || c == '|' || c == '>' || c == '\x27' || c == '"' || c == '%' ||
    c == '@' || c == '\x60'

/-- Whether a text begins with an indicator: with one of the characters for it, with one that is an
indicator before white space, or with the marker of a document. -/
def beginsWithIndicator : List Char → Bool
  | '-' :: '-' :: '-' :: _ | '.' :: '.' :: '.' :: _ => true
  | c :: rest => isLeadingIndicator c || (c == '?' || c == '-') && separated rest
  | [] => false

/-- Whether a text holds a colon before white space, or a number sign behind it. -/
def holdsIndicator : (preceded : Bool) → List Char → Bool
  | _, [] => false
  | preceded, c :: rest =>
    c == ':' && separated rest || c == '#' && preceded || holdsIndicator (isSeparator c) rest

/-- Whether a text may be written plainly. -/
def allowsPlain (cs : List Char) : Bool :=
  cs.all (fun c => isPrintable c && !isBreak c) && cs.head? != some ' ' &&
    cs.getLast? != some ' ' && !beginsWithIndicator cs && !holdsIndicator false cs

/-- Whether a text may be written between single quotes. -/
def allowsSingle (cs : List Char) : Bool :=
  cs.all isPrintable && !hasPair isBreak (· == ' ') cs && !hasPair (· == ' ') isBreak cs

/-- Whether a text may be written as a literal block. -/
def allowsLiteral (cs : List Char) : Bool :=
  cs.all isPrintable && !hasPair (· == ' ') isBreak cs && cs.getLast? != some ' '

/-- Whether a plain scalar with this text would be read as something other than a text. -/
def isAmbiguous (text : String) : Bool :=
  match Scalar.ofPlain text with
  | .text _ => Scalar.hasSpareZero text.toList
  | _ => true

/-- The style in which a text is written. `inKey` tells that it is a key on one line. -/
def styleOf (inKey : Bool) (text : String) : ScalarStyle :=
  let cs := text.toList
  if cs.contains '\n' then
    if allowsLiteral cs && !inKey then .literal else .doubleQuoted
  else if !isAmbiguous text && allowsPlain cs then .plain
  else if allowsSingle cs && !(inKey && cs.any isBreak) then .singleQuoted
  else .doubleQuoted

/-- So many spaces. -/
def spaces (n : Nat) : List Char := List.replicate n ' '

/-- A text between single quotes. Behind a line break the line is indented. -/
def single (indent : Nat) : (broken : Bool) → List Char → List Char
  | broken, [] => (if broken then spaces indent else []) ++ ['\x27']
  | broken, c :: rest =>
    if isBreak c then c :: single indent true rest
    else
      (if broken then spaces indent else []) ++
        (if c == '\x27' then ['\x27', '\x27'] else [c]) ++ single indent false rest

/-- The lines of a literal block. Lines that hold something are indented. -/
def literalLines (indent : Nat) : (broken : Bool) → List Char → List Char
  | _, [] => []
  | broken, c :: rest =>
    if isBreak c then c :: literalLines indent true rest
    else (if broken then spaces indent else []) ++ c :: literalLines indent false rest

/-- The indicators of a literal block: the indentation if the text begins with white space, and what
becomes of the line breaks at its end. -/
def literalHeader (cs : List Char) : List Char :=
  let hint := if cs.head?.any fun c => c == ' ' || isBreak c then ['2'] else []
  let chomping := match cs.reverse with
    | [] => ['-']
    | [c] => if isBreak c then ['+'] else ['-']
    | c :: d :: _ => if !isBreak c then ['-'] else if isBreak d then ['+'] else []
  '|' :: (hint ++ chomping)

/-- A number as hexadecimal digits of a width. -/
def hex (width n : Nat) : List Char :=
  let digits := (Nat.toDigits 16 n).map fun c => if 'a' ≤ c then Char.ofNat (c.toNat - 32) else c
  List.replicate (width - digits.length) '0' ++ digits

/-- A character between double quotes. -/
def doubleChar (c : Char) : List Char :=
  match c with
  | '\x00' => ['\\', '0']
  | '\x07' => ['\\', 'a']
  | '\x08' => ['\\', 'b']
  | '\t' => ['\\', 't']
  | '\n' => ['\\', 'n']
  | '\x0b' => ['\\', 'v']
  | '\x0c' => ['\\', 'f']
  | '\r' => ['\\', 'r']
  | '\x1b' => ['\\', 'e']
  | '"' => ['\\', '"']
  | '\\' => ['\\', '\\']
  | '\u0085' => ['\\', 'N']
  | '\u2028' => ['\\', 'L']
  | '\u2029' => ['\\', 'P']
  | c =>
    let n := c.toNat
    if isPrintable c then [c]
    else if n ≤ 0xFF then '\\' :: 'x' :: hex 2 n
    else if n ≤ 0xFFFF then '\\' :: 'u' :: hex 4 n
    else '\\' :: 'U' :: hex 8 n

/-- A text in its style; the lines of a block or of a quoted text are indented. -/
def text (inKey : Bool) (indent : Nat) (value : String) : List Char :=
  let cs := value.toList
  match styleOf inKey value with
  | .plain => cs
  | .singleQuoted => '\x27' :: single indent false cs
  | .literal => literalHeader cs ++ '\n' :: literalLines indent true cs
  | _ => '"' :: (cs.flatMap doubleChar ++ ['"'])

/-! ## Values -/

/-- A tag with its exclamation mark. -/
def fullTag (name : String) : List Char :=
  match name.toList with
  | '!' :: rest => '!' :: rest
  | cs => '!' :: cs

/-- A character of a tag. -/
def tagChar (c : Char) : List Char :=
  if isNameChar c || c == ';' || c == '/' || c == '?' || c == ':' || c == '@' || c == '&' ||
      c == '=' || c == '+' || c == '$' || c == ',' || c == '.' || c == '~' || c == '*' ||
      c == '\x27' || c == '(' || c == ')' || c == '[' || c == ']' then [c]
  else (Text.charBytes c).flatMap Text.percentByte

/-- A local tag. The tag that is an exclamation mark alone has a form of its own. -/
def tag (name : String) : List Char :=
  match fullTag name with
  | [c] => '!' :: '<' :: (tagChar c ++ ['>'])
  | cs => '!' :: cs.tail.flatMap tagChar

/-- What is before a value on its line. -/
inductive Lead where
  /-- Nothing. -/
  | start
  /-- An indicator behind which a block may begin. -/
  | indicator
  /-- A key with its colon, or a tag; a block begins on the next line. -/
  | word
deriving DecidableEq

/-- The gap before something that stands on the same line. -/
def Lead.gap : Lead → List Char
  | start => []
  | indicator | word => [' ']

/-- The gap before a block that is indented by a number of columns. -/
def Lead.blockGap (indent : Nat) : Lead → List Char
  | start => []
  | indicator => [' ']
  | word => '\n' :: spaces indent

/-- The indentation of a block within one of an indentation; there is none around the whole. -/
def deeper : Option Nat → Nat
  | none => 0
  | some indent => indent + 2

/-- The number of bytes of a value that stands on one line: a scalar without line breaks or an empty
collection, whose brackets do not count. -/
def lineLength? : Value → Option Nat
  | .null => some 4
  | .bool b => some (if b then 4 else 5)
  | .int n => some (Value.intText n).utf8ByteSize
  | .float x => some (NumberLayout.document.render x).utf8ByteSize
  | .text s => if s.toList.any isBreak then none else some s.utf8ByteSize
  | .sequence vs => if vs.isEmpty then some 0 else none
  | .mapping vs => if vs.isEmpty then some 0 else none
  | .tagged name v => (lineLength? v).map (· + (String.ofList (fullTag name)).utf8ByteSize)

/-- Whether a value stands on one line as a key: it may have 128 bytes. -/
def isShortKey (key : Value) : Bool :=
  (lineLength? key).any (· ≤ 128)

/-- The beginning of a line below a block. The block may end with a line break already, if a literal
block is last in it. -/
def lineBelow (indent : Nat) (block : List Char) : List Char :=
  if block.getLast?.any isBreak then spaces indent else '\n' :: spaces indent

/-- Blocks below each other in a column. -/
def column (indent : Nat) : List (List Char) → List Char
  | [] => []
  | [block] => block
  | block :: rest => block ++ lineBelow indent block ++ column indent rest

mutual

/-- A value behind what is before it on its line, within a block of an indentation. A sequence
behind a key is not indented. -/
def value (inMapping inKey : Bool) (lead : Lead) (indent : Option Nat) : Value → List Char
  | .null => lead.gap ++ ['n', 'u', 'l', 'l']
  | .bool b => lead.gap ++ (if b then ['t', 'r', 'u', 'e'] else ['f', 'a', 'l', 's', 'e'])
  | .int n => lead.gap ++ (Value.intText n).toList
  | .float x => lead.gap ++ (NumberLayout.document.render x).toList
  | .text s => lead.gap ++ text inKey ((indent.getD 0) + 2) s
  | .sequence vs =>
    if vs.isEmpty then lead.gap ++ ['[', ']']
    else
      let inner := if inMapping && lead = .word then indent.getD 0 else deeper indent
      lead.blockGap inner ++ column inner (items inner vs)
  | .mapping vs =>
    if vs.isEmpty then lead.gap ++ ['\x7b', '\x7d']
    else
      let inner := deeper indent
      lead.blockGap inner ++ column inner (entries inner vs)
  | .tagged name v => lead.gap ++ (tag name ++ value inMapping inKey .word indent v)

/-- The elements of a sequence. -/
def items (indent : Nat) : List Value → List (List Char)
  | [] => []
  | v :: rest => ('-' :: value false false .indicator (some indent) v) :: items indent rest

/-- The entries of a mapping. A key that does not stand on one line is introduced by an
indicator. -/
def entries (indent : Nat) : List (Value × Value) → List (List Char)
  | [] => []
  | (key, v) :: rest =>
    let entry :=
      if isShortKey key then
        value true true .start (some indent) key ++ ':' :: value true false .word (some indent) v
      else
        let above := '?' :: value true false .indicator (some indent) key
        above ++ lineBelow indent above ++ ':' :: value true false .indicator (some indent) v
    entry :: entries indent rest

end

/-- Whether a value is announced only with its first part: a tagged value is, and a mapping of one
entry, which until then might be a tagged value. -/
def isAnnouncedLate : Value → Bool
  | .mapping [_] | .tagged _ _ => true
  | _ => false

mutual

/-- Whether a value has a written form. A mapping of one entry that is itself announced late does
not, if its key is announced late as well; behind a tag it is announced at once. -/
def isWritable (behindTag : Bool) : Value → Bool
  | .sequence vs => itemsWritable vs
  | .mapping vs =>
    (behindTag || match vs with
      | [(key, _)] => !isAnnouncedLate key
      | _ => true) && entriesWritable vs
  | .tagged _ v => isWritable true v
  | _ => true

/-- Whether all elements of a sequence have a written form. -/
def itemsWritable : List Value → Bool
  | [] => true
  | v :: rest => isWritable false v && itemsWritable rest

/-- Whether all keys and values of a mapping have a written form. -/
def entriesWritable : List (Value × Value) → Bool
  | [] => true
  | (key, v) :: rest => isWritable false key && isWritable false v && entriesWritable rest

end

end Written

/-- A raw value as messages write it. -/
def Value.written (v : Value) : String :=
  if Written.isWritable false v then
    Text.trim (String.ofList (Written.value false false .start none v))
  else v.outline

end Dashboards.Yaml
