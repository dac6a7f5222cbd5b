import Dashboards.Text.Digits
import Dashboards.Yaml.Token.Basic

/-!
# Anchors, tags and directives

The tokens that say something about a node or a document: anchors and aliases are names, a tag is
spelled in full between angle brackets or as a handle with a suffix, and a directive at the start of
a line gives the version or declares a tag handle. Tags may escape bytes of their text by number;
these have to be grouped like the bytes of characters, but need not be any.
-/

namespace Dashboards.Yaml

/-! ## Anchors and aliases -/

/-- Whether a character may follow the name of an anchor. -/
def closesAnchor (c : Char) : Bool :=
  isSeparator c || c == '?' || c == ':' || c == ',' || c == ']' || c == '\x7d' || c == '%' ||
    c == '@' || c == '\x60'

/-- Reads the name behind the indicator of an anchor or an alias. -/
def readAnchorName (during : Construct) (cursor : Cursor) : Except Fault (String × Cursor) :=
  let (name, next) := (cursor.skip 1).takeWhile isNameChar
  if name.isEmpty || !next.rest.head?.all closesAnchor then
    .error ⟨.anchorNameMissing, next.mark, some (during, cursor.mark)⟩
  else .ok (String.ofList name, next)

/-! ## Tags -/

/-- Whether a character may occur in the text of a tag. Commas and square brackets may do so only
where nothing else can use them. -/
def isTagChar (wide : Bool) (c : Char) : Bool :=
  isNameChar c || c == ';' || c == '/' || c == '?' || c == ':' || c == '@' || c == '&' ||
    c == '=' || c == '+' || c == '$' || c == '.' || c == '%' || c == '!' || c == '~' || c == '*' ||
    c == '\x27' || c == '(' || c == ')' || wide && (c == ',' || c == '[' || c == ']')

/-- How many bytes a character takes, by its first byte. -/
def octetWidth? (octet : Nat) : Option Nat :=
  if octet < 0x80 then some 1
  else if 0xC0 ≤ octet ∧ octet < 0xE0 then some 2
  else if 0xE0 ≤ octet ∧ octet < 0xF0 then some 3
  else if 0xF0 ≤ octet ∧ octet < 0xF8 then some 4
  else none

/-- The bits that the first byte of a character of some width contributes. -/
def leadingBits (width octet : Nat) : Nat :=
  match width with
  | 1 => octet
  | 2 => octet - 0xC0
  | 3 => octet - 0xE0
  | _ => octet - 0xF0

/-- The character with a code that takes so many bytes, if there is one. -/
def charOfCode? (width code : Nat) : Option Char :=
  let least := match width with
    | 1 => 0
    | 2 => 0x80
    | 3 => 0x800
    | _ => 0x10000
  if least ≤ code ∧ code.isValidChar then some (Char.ofNat code) else none

/-- One escaped byte: a percent sign and two hexadecimal digits. -/
def readOctet? (cursor : Cursor) : Option (Nat × Cursor) :=
  match cursor.rest with
  | '%' :: a :: b :: _ =>
    match Text.hexDigit? a, Text.hexDigit? b with
    | some x, some y => some (16 * x + y, cursor.skip 3)
    | _, _ => none
  | _ => none

/-- The bytes of a character behind its first one. -/
def readTrailing : (missing : Nat) → Cursor → (code : Nat) → Except (Problem × Mark) (Nat × Cursor)
  | 0, cursor, code => .ok (code, cursor)
  | missing + 1, cursor, code =>
    match readOctet? cursor with
    | none => .error (.octetMissing, cursor.mark)
    | some (octet, next) =>
      if 0x80 ≤ octet ∧ octet < 0xC0 then readTrailing missing next (64 * code + (octet - 0x80))
      else .error (.octetTrailing, cursor.mark)

/-- Reads the escaped bytes of what should be a character. -/
def readEscaped (cursor : Cursor) : Except (Problem × Mark) (Option Char × Cursor) :=
  match readOctet? cursor with
  | none => .error (.octetMissing, cursor.mark)
  | some (octet, next) =>
    match octetWidth? octet with
    | none => .error (.octetLeading, cursor.mark)
    | some width => do
      let (code, next) ← readTrailing (width - 1) next (leadingBits width octet)
      return (charOfCode? width code, next)

/-- Reads the characters of a tag's text, at most `fuel` of them; last one first. -/
def readTagChars (wide : Bool) :
    (fuel : Nat) → Cursor → Tag → Except (Problem × Mark) (Tag × Cursor)
  | 0, cursor, reversed => .ok (reversed, cursor)
  | fuel + 1, cursor, reversed =>
    match cursor.rest with
    | c :: _ =>
      if c == '%' then do
        let (d, next) ← readEscaped cursor
        readTagChars wide fuel next (d :: reversed)
      else if isTagChar wide c then readTagChars wide fuel (cursor.skip 1) (some c :: reversed)
      else .ok (reversed, cursor)
    | [] => .ok (reversed, cursor)

/-- Reads the text of a tag behind what is known of it, `known`. `mayEnd` allows nothing to
follow. -/
def readTagText (wide mayEnd : Bool) (known : Tag) (during : Construct) (start : Mark)
    (cursor : Cursor) : Except Fault (Tag × Cursor) :=
  match readTagChars wide cursor.rest.length cursor [] with
  | .error (problem, mark) => .error ⟨problem, mark, some (during, start)⟩
  | .ok (reversed, next) =>
    if !mayEnd && reversed.isEmpty then .error ⟨.tagTextMissing, next.mark, some (during, start)⟩
    else .ok ((known ++ reversed.reverse).ended, next)

/-- Reads what may be a handle: an exclamation mark, a name, and perhaps a second mark. -/
def readHandle (cursor : Cursor) : List Char × Cursor :=
  let (name, next) := (cursor.skip 1).takeWhile isNameChar
  match next.rest with
  | '!' :: _ => ('!' :: (name ++ ['!']), next.skip 1)
  | _ => ('!' :: name, next)

/-- Reads the handle and the suffix of a tag. A tag in full has the empty handle, and so has the tag
that is a single exclamation mark. -/
def readTagParts (cursor : Cursor) : Except Fault (String × Tag × Cursor) :=
  let start := cursor.mark
  match cursor.rest with
  | _ :: '<' :: _ => do
    let (suffix, next) ← readTagText true false [] .tagValue start (cursor.skip 2)
    match next.rest with
    | '>' :: _ => return ("", suffix, next.skip 1)
    | _ => throw ⟨.tagCloseMissing, next.mark, some (.tagToken, start)⟩
  | _ =>
    let (handle, next) := readHandle cursor
    if 1 < handle.length && handle.getLast? == some '!' then do
      let (suffix, next) ← readTagText false false [] .tagValue start next
      return (String.ofList handle, suffix, next)
    else do
      let known := (handle.drop 1).map some
      let (suffix, next) ← readTagText false true known .tagValue start next
      if suffix.isEmpty then return ("", .ofText "!", next) else return ("!", suffix, next)

/-- Reads a tag. A separator follows it, or within brackets a comma. -/
def readTag (flow : Bool) (cursor : Cursor) : Except Fault (TokenKind × Cursor) := do
  let (handle, suffix, next) ← readTagParts cursor
  if separated next.rest || flow && next.rest.head? == some ',' then
    return (.tag handle suffix, next)
  else throw ⟨.blankOrBreakMissing, next.mark, some (.tagToken, cursor.mark)⟩

/-! ## Directives -/

/-- Reads a part of a version number. -/
def readVersionPart (start : Mark) (cursor : Cursor) : Except Fault (Nat × Cursor) :=
  let (digits, next) := cursor.takeWhile Char.isDigit
  if digits.isEmpty then .error ⟨.versionMissing, cursor.mark, some (.versionDirective, start)⟩
  else if 9 < digits.length then
    .error ⟨.versionTooLong, (cursor.skip 9).mark, some (.versionDirective, start)⟩
  else .ok (digits.foldl (fun n c => 10 * n + (c.toNat - 48)) 0, next)

/-- Reads a version. -/
def readVersion (start : Mark) (cursor : Cursor) : Except Fault (TokenKind × Cursor) := do
  let (major, next) ← readVersionPart start (cursor.skipWhile isGap)
  match next.rest with
  | '.' :: _ =>
    let (minor, next) ← readVersionPart start (next.skip 1)
    return (.versionDirective major minor, next)
  | _ => throw ⟨.versionSeparatorMissing, next.mark, some (.versionDirective, start)⟩

/-- Reads the declaration of a tag handle. -/
def readTagDeclaration (start : Mark) (cursor : Cursor) : Except Fault (TokenKind × Cursor) := do
  let cursor := cursor.skipWhile isGap
  if cursor.rest.head? != some '!' then
    throw ⟨.tagBangMissing, cursor.mark, some (.tagDirectiveStart, start)⟩
  let (handle, next) := readHandle cursor
  if 1 < handle.length && handle.getLast? != some '!' then
    throw ⟨.tagBangMissing, next.mark, some (.tagDirectiveHandle, start)⟩
  if !next.rest.head?.any isGap then
    throw ⟨.blankMissing, next.mark, some (.tagDirective, start)⟩
  let (replacement, next) ←
    readTagText true false [] .tagDirectiveValue start (next.skipWhile isGap)
  if !separated next.rest then
    throw ⟨.blankOrBreakMissing, next.mark, some (.tagDirective, start)⟩
  return (.tagDirective (String.ofList handle) replacement, next)

/-- Reads the value of a directive by its name. -/
def readDirectiveValue (start : Mark) (name : String) (cursor : Cursor) :
    Except Fault (TokenKind × Cursor) :=
  if name = "YAML" then readVersion start cursor
  else if name = "TAG" then readTagDeclaration start cursor
  else .error ⟨.directiveUnknown, cursor.mark, some (.directive, start)⟩

/-- Reads a directive and the rest of its line, which holds at most a comment. -/
def readDirective (cursor : Cursor) : Except Fault (Token × Cursor) := do
  let start := cursor.mark
  let (name, next) := (cursor.skip 1).takeWhile isNameChar
  if name.isEmpty then throw ⟨.directiveNameMissing, next.mark, some (.directive, start)⟩
  if !separated next.rest then
    throw ⟨.directiveNameOther, next.mark, some (.directive, start)⟩
  let (kind, next) ← readDirectiveValue start (String.ofList name) next
  let token : Token := ⟨kind, start, next.mark⟩
  let next := next.skipWhile isGap
  let next := if next.rest.head? == some '#' then next.skipWhile fun c => !isBreak c else next
  if !lineEnded next.rest then
    throw ⟨.commentOrBreakMissing, next.mark, some (.directive, start)⟩
  return (token, next.skipBreak)

end Dashboards.Yaml
