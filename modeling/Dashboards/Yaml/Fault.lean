import Dashboards.Text.Quoted
import Dashboards.Number.Layout
import Dashboards.Yaml.Cursor

/-!
# What can be wrong with a document

A document can fail in two ways. Its text may be malformed: a `Fault` names the problem, the place
where it was noticed, and the construct that was being read, with the place where that began. Or it
may not have the shape that is asked for: a `Mismatch` says what was found instead, and it is placed
by a mark and by the path from the root. `Error.message` has the wording of both.
-/

namespace Dashboards.Yaml

/-- The constructs in which a fault may be noticed. -/
inductive Construct where
  | simpleKey | nextToken | directive | versionDirective | tagDirective | tagDirectiveValue
  | tagDirectiveStart | tagDirectiveHandle | tagToken | tagValue | blockScalar | quotedScalar
  | quotedEscape | plainScalar | anchor | aliasName | blockMapping | blockCollection
  | flowSequence | flowMapping | node | blockNode | flowNode
deriving DecidableEq

/-- The words for what was being read. -/
def Construct.text : Construct → String
  | simpleKey => "while scanning a simple key"
  | nextToken => "while scanning for the next token"
  | directive => "while scanning a directive"
  | versionDirective => "while scanning a %YAML directive"
  | tagDirective => "while scanning a %TAG directive"
  | tagDirectiveValue => "while parsing a %TAG directive"
  | tagDirectiveStart => "while scanning a tag directive"
  | tagDirectiveHandle => "while parsing a tag directive"
  | tagToken => "while scanning a tag"
  | tagValue => "while parsing a tag"
  | blockScalar => "while scanning a block scalar"
  | quotedScalar => "while scanning a quoted scalar"
  | quotedEscape => "while parsing a quoted scalar"
  | plainScalar => "while scanning a plain scalar"
  | anchor => "while scanning an anchor"
  | aliasName => "while scanning an alias"
  | blockMapping => "while parsing a block mapping"
  | blockCollection => "while parsing a block collection"
  | flowSequence => "while parsing a flow sequence"
  | flowMapping => "while parsing a flow mapping"
  | node => "while parsing a node"
  | blockNode => "while parsing a block node"
  | flowNode => "while parsing a flow node"

/-- The problems of a malformed text. -/
inductive Problem where
  | keyWithoutValue | noToken | blockEntryHere | mappingKeyHere | mappingValueHere
  | directiveNameMissing | directiveNameOther | directiveUnknown | commentOrBreakMissing
  | versionSeparatorMissing | versionTooLong | versionMissing | tagBangMissing | blankMissing
  | blankOrBreakMissing | anchorNameMissing | tagCloseMissing | tagTextMissing | octetMissing
  | octetLeading | octetTrailing | indentationZero | indentationTab | plainTab | plainColon
  | documentIndicator | endOfStream | escapeUnknown | hexMissing | escapeNoCharacter
  | documentStartMissing | versionTwice | versionIncompatible | tagTwice | tagHandleUndefined
  | contentMissing | blockEntryMissing | mappingKeyMissing | sequenceCloseMissing
  | mappingCloseMissing
deriving DecidableEq

/-- The words for a problem. -/
def Problem.text : Problem → String
  | keyWithoutValue => "could not find expected ':'"
  | noToken => "found character that cannot start any token"
  | blockEntryHere => "block sequence entries are not allowed in this context"
  | mappingKeyHere => "mapping keys are not allowed in this context"
  | mappingValueHere => "mapping values are not allowed in this context"
  | directiveNameMissing => "could not find expected directive name"
  | directiveNameOther => "found unexpected non-alphabetical character"
  | directiveUnknown => "found unknown directive name"
  | commentOrBreakMissing => "did not find expected comment or line break"
  | versionSeparatorMissing => "did not find expected digit or '.' character"
  | versionTooLong => "found extremely long version number"
  | versionMissing => "did not find expected version number"
  | tagBangMissing => "did not find expected '!'"
  | blankMissing => "did not find expected whitespace"
  | blankOrBreakMissing => "did not find expected whitespace or line break"
  | anchorNameMissing => "did not find expected alphabetic or numeric character"
  | tagCloseMissing => "did not find the expected '>'"
  | tagTextMissing => "did not find expected tag URI"
  | octetMissing => "did not find URI escaped octet"
  | octetLeading => "found an incorrect leading UTF-8 octet"
  | octetTrailing => "found an incorrect trailing UTF-8 octet"
  | indentationZero => "found an indentation indicator equal to 0"
  | indentationTab => "found a tab character where an indentation space is expected"
  | plainTab => "found a tab character that violates indentation"
  | plainColon => "found unexpected ':'"
  | documentIndicator => "found unexpected document indicator"
  | endOfStream => "found unexpected end of stream"
  | escapeUnknown => "found unknown escape character"
  | hexMissing => "did not find expected hexadecimal number"
  | escapeNoCharacter => "found invalid Unicode character escape code"
  | documentStartMissing => "did not find expected <document start>"
  | versionTwice => "found duplicate %YAML directive"
  | versionIncompatible => "found incompatible YAML document"
  | tagTwice => "found duplicate %TAG directive"
  | tagHandleUndefined => "found undefined tag handle"
  | contentMissing => "did not find expected node content"
  | blockEntryMissing => "did not find expected '-' indicator"
  | mappingKeyMissing => "did not find expected key"
  | sequenceCloseMissing => "did not find expected ',' or ']'"
  | mappingCloseMissing => "did not find expected ',' or '\x7d'"

/-- A malformed place: the problem, where it was noticed, and what was being read since where. -/
structure Fault where
  problem : Problem
  mark : Mark
  during : Option (Construct × Mark) := none
deriving DecidableEq

/-- The text of a fault. A place at the very beginning is left out, and so is the beginning of a
construct that coincides with the place of the problem. -/
def Fault.text (fault : Fault) : String :=
  let place (mark : Mark) : String := s!" at {mark.text}"
  let here := if fault.mark.atOrigin then "" else place fault.mark
  let context := match fault.during with
    | none => ""
    | some (construct, since) =>
      let same := since.line == fault.mark.line && since.column == fault.mark.column
      ", " ++ construct.text ++ if since.atOrigin || same then "" else place since
  fault.problem.text ++ here ++ context

/-- A step of the path from the root of a document to a node. -/
inductive Step where
  /-- The value of a key. -/
  | key (name : String)
  /-- The value of a key that is no text of its own. -/
  | unknown
  /-- An element of a sequence. -/
  | index (i : Nat)
  /-- The node that an alias stands for. -/
  | target
deriving DecidableEq

/-- The way from a node back to the root of the document, the last step first. -/
abbrev Path := List Step

/-- A path as messages give it. The root alone is a dot. -/
def Path.text : Path → String
  | [] => "."
  | .key name :: [] => name
  | .key name :: path => Path.text path ++ "." ++ name
  | .unknown :: [] => "?"
  | .unknown :: path => Path.text path ++ ".?"
  | .index i :: path => s!"{Path.text path}[{i}]"
  | .target :: path => Path.text path

/-- What a decoder came upon. -/
inductive Found where
  | unit
  | bool (value : Bool)
  | int (value : Int)
  /-- An integer that takes more than 64 bits. -/
  | wideInt (value : Int)
  | float (value : Binary64)
  | text (value : String)
  | sequence
  | mapping
deriving DecidableEq

/-- The words for what was found. -/
def Found.describe : Found → String
  | unit => "unit value"
  | bool value => s!"boolean `{value}`"
  | int value => s!"integer `{value}`"
  | wideInt value => s!"integer `{value}` as " ++ if value < 0 then "i128" else "u128"
  | float value => "floating point `" ++ NumberLayout.message.render value ++ "`"
  | text value => "string " ++ Text.quote value
  | sequence => "sequence"
  | mapping => "map"

/-- What a repeated key of a raw mapping is, as far as messages tell. -/
inductive RepeatedKey where
  | text (value : String)
  | bool (value : Bool)
  | number (digits : String)
  | null
  | other
deriving DecidableEq

/-- The words for a repeated key. -/
def RepeatedKey.describe : RepeatedKey → String
  | text value => "with key " ++ Text.quote value
  | bool value => s!"with key `{value}`"
  | number digits => s!"with key {digits}"
  | null => "with null key"
  | other => "in YAML map"

/-- Several names in back quotes, as a choice. -/
def choice (names : List String) : String :=
  let quoted := names.map fun name => "`" ++ name ++ "`"
  match quoted with
  | [] => "there are no fields"
  | [a] => "expected " ++ a
  | [a, b] => "expected " ++ a ++ " or " ++ b
  | names => "expected one of " ++ String.intercalate ", " names

/-- How a node can differ from what is asked for. -/
inductive Mismatch where
  /-- A mapping of fixed fields has another one. -/
  | unknownField (name : String) (expected : List String)
  /-- A mapping of fixed fields has one of them twice. -/
  | duplicateField (name : String)
  /-- A raw mapping has a key twice. -/
  | duplicateEntry (key : RepeatedKey)
  /-- A node of another type. -/
  | wrongType (found : Found) (expected : String)
  /-- A node of the right type with a value that is not among those allowed. -/
  | wrongValue (found : Found) (expected : String)
  /-- A reference to a query is neither a name nor a query. -/
  | noReference
  /-- A node with a local tag inside a reference to a query. -/
  | taggedReference
deriving DecidableEq

/-- The text of a mismatch. -/
def Mismatch.text : Mismatch → String
  | unknownField name expected => s!"unknown field `{name}`, " ++ choice expected
  | duplicateField name => s!"duplicate field `{name}`"
  | duplicateEntry key => s!"duplicate entry {key.describe}"
  | wrongType found expected => s!"invalid type: {found.describe}, expected {expected}"
  | wrongValue found expected => s!"invalid value: {found.describe}, expected {expected}"
  | noReference => "data did not match any variant of untagged enum QueryReference"
  | taggedReference => "untagged and internally tagged enums do not support enum input"

/-- Why a document is not read. -/
inductive Error where
  /-- A control character, so many bytes into the text. -/
  | control (offset : Nat)
  /-- The text is malformed. -/
  | malformed (fault : Fault)
  /-- An alias without an anchor before it. -/
  | unknownAnchor (mark : Mark)
  /-- A collection nested too deep. -/
  | depth (mark : Mark)
  /-- Too many aliases were followed. -/
  | repetition
  /-- There is nothing to read. -/
  | nothing
  /-- A second document follows the first. -/
  | severalDocuments
  /-- A node differs from what is asked for, at a place once it is known. -/
  | mismatch (reason : Mismatch) (place : Option (Mark × Path))
deriving DecidableEq

namespace Error

/-- A mark at the end of a message, left out at the very beginning of the text. -/
def placed (text : String) (mark : Mark) : String :=
  if mark.atOrigin then text else s!"{text} at {mark.text}"

/-- The text of an error. -/
def message : Error → String
  | control offset =>
    "control characters are not allowed" ++ if offset = 0 then "" else s!" at position {offset}"
  | malformed fault => fault.text
  | unknownAnchor mark => placed "unknown anchor" mark
  | depth mark => placed "recursion limit exceeded" mark
  | repetition => "repetition limit exceeded"
  | nothing => "EOF while parsing a value"
  | severalDocuments =>
    "deserializing from YAML containing more than one document is not supported"
  | mismatch reason none => reason.text
  | mismatch reason (some (mark, path)) =>
    placed (if path.text = "." then reason.text else path.text ++ ": " ++ reason.text) mark

/-- Gives a mismatch its place, unless it has one. -/
def placeAt (mark : Mark) (path : Path) : Error → Error
  | mismatch reason none => mismatch reason (some (mark, path))
  | error => error

end Error

end Dashboards.Yaml
