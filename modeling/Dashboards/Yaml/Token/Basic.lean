import Dashboards.Yaml.Fault

/-!
# Tokens

A document is first cut into tokens: indicators, scalars with their text already unfolded, and the
invisible starts and ends of block collections that the indentation implies.
-/

namespace Dashboards.Yaml

/-- A tag, or a part of one. The bytes that it escapes may be no character (`none`). -/
abbrev Tag := List (Option Char)

namespace Tag

/-- The tag that a text is. -/
def ofText (text : String) : Tag :=
  text.toList.map some

/-- The text of a tag, if all of it is characters. -/
def text? (tag : Tag) : Option String :=
  (tag.mapM id).map String.ofList

/-- Whether a tag is local, that is, begins with an exclamation mark. -/
def isLocal (tag : Tag) : Bool :=
  tag.head? == some (some '!')

/-- The tag up to the first character of number zero, which ends it. -/
def ended (tag : Tag) : Tag :=
  tag.takeWhile (· != some '\x00')

end Tag

/-- How a scalar is written. -/
inductive ScalarStyle where
  | plain | singleQuoted | doubleQuoted | literal | folded
deriving DecidableEq, Inhabited

/-- What a token is. -/
inductive TokenKind where
  | streamStart | streamEnd
  | versionDirective (major minor : Nat)
  | tagDirective (handle : String) (replacement : Tag)
  | documentStart | documentEnd
  | blockSequenceStart | blockMappingStart | blockEnd
  | flowSequenceStart | flowSequenceEnd | flowMappingStart | flowMappingEnd
  | blockEntry | flowEntry | key | value
  | aliasName (name : String)
  | anchor (name : String)
  | tag (handle : String) (suffix : Tag)
  | scalar (text : String) (style : ScalarStyle)
deriving DecidableEq, Inhabited

/-- A token with the places where it starts and where it ends. -/
structure Token where
  kind : TokenKind
  start : Mark
  stop : Mark
deriving DecidableEq, Inhabited

end Dashboards.Yaml
