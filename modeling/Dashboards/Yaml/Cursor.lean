/-!
# Places in a document

A mark is a place in the characters of a document, and a cursor is a mark with the characters that
follow it. A carriage return and a line feed that follow each other are one line break; the other
line breaks are single characters.
-/

namespace Dashboards.Yaml

/-- A place in a document: how many bytes, line breaks, and characters since the last line break are
before it. -/
structure Mark where
  offset : Nat := 0
  line : Nat := 0
  column : Nat := 0
deriving DecidableEq, Inhabited

namespace Mark

/-- The mark behind a character that ends no line. -/
def past (mark : Mark) (c : Char) : Mark :=
  ⟨mark.offset + c.utf8Size, mark.line, mark.column + 1⟩

/-- The mark behind characters that end no line. -/
def pastAll (mark : Mark) (cs : List Char) : Mark :=
  cs.foldl past mark

/-- The mark behind a line break of so many bytes. -/
def newline (mark : Mark) (bytes : Nat) : Mark :=
  ⟨mark.offset + bytes, mark.line + 1, 0⟩

/-- Whether the mark is at the first character of the document. -/
def atOrigin (mark : Mark) : Bool :=
  mark.line == 0 && mark.column == 0

/-- The place as messages give it. Lines and columns are counted from one there. -/
def text (mark : Mark) : String :=
  s!"line {mark.line + 1} column {mark.column + 1}"

end Mark

/-- Whether a character ends a line. -/
def isBreak (c : Char) : Bool :=
  c == '\n' || c == '\r' || c == '\u0085' || c == '\u2028' || c == '\u2029'

/-- Whether a character is a space or a tab. -/
def isGap (c : Char) : Bool :=
  c == ' ' || c == '\t'

/-- Whether a character separates words: a gap or a line break. -/
def isSeparator (c : Char) : Bool :=
  isGap c || isBreak c

/-- Whether the characters end or begin with a separator. -/
def separated : List Char → Bool
  | [] => true
  | c :: _ => isSeparator c

/-- Whether the characters end or begin with a line break. -/
def lineEnded : List Char → Bool
  | [] => true
  | c :: _ => isBreak c

/-- Whether a character may occur in the name of an anchor, a directive or a tag handle. -/
def isNameChar (c : Char) : Bool :=
  c.isAlphanum || c == '_' || c == '-'

/-- What a line break stands for in a text: the breaks of other systems stand for a line feed. -/
def breakText (c : Char) : Char :=
  if c == '\u2028' || c == '\u2029' then c else '\n'

/-- The characters from a place on, and the place. -/
structure Cursor where
  rest : List Char
  mark : Mark := {}
deriving DecidableEq, Inhabited

namespace Cursor

/-- Goes on by a number of characters that are no line breaks. -/
def skip (cursor : Cursor) (n : Nat) : Cursor :=
  ⟨cursor.rest.drop n, cursor.mark.pastAll (cursor.rest.take n)⟩

/-- The first characters that satisfy a condition no line break satisfies, and the cursor behind
them. -/
def takeWhile (cursor : Cursor) (p : Char → Bool) : List Char × Cursor :=
  let taken := cursor.rest.takeWhile p
  (taken, cursor.skip taken.length)

/-- Goes on while the characters satisfy a condition that no line break satisfies. -/
def skipWhile (cursor : Cursor) (p : Char → Bool) : Cursor :=
  (cursor.takeWhile p).2

/-- The text of the line break at the cursor, if there is one, and the cursor behind it. -/
def lineBreak? (cursor : Cursor) : Option (Char × Cursor) :=
  match cursor.rest with
  | '\r' :: '\n' :: rest => some ('\n', ⟨rest, cursor.mark.newline 2⟩)
  | c :: rest =>
    if isBreak c then some (breakText c, ⟨rest, cursor.mark.newline c.utf8Size⟩) else none
  | [] => none

/-- Goes past the line break at the cursor, if there is one. -/
def skipBreak (cursor : Cursor) : Cursor :=
  match cursor.lineBreak? with
  | some (_, next) => next
  | none => cursor

/-- Whether a line of three given characters and nothing glued to them begins here. -/
def atIndicator (cursor : Cursor) (c : Char) : Bool :=
  cursor.mark.column == 0 &&
    match cursor.rest with
    | c₁ :: c₂ :: c₃ :: rest => c₁ == c && c₂ == c && c₃ == c && separated rest
    | _ => false

/-- Whether a document starts or ends here. -/
def atDocumentIndicator (cursor : Cursor) : Bool :=
  cursor.atIndicator '-' || cursor.atIndicator '.'

end Cursor

end Dashboards.Yaml
