import Dashboards.Text.Digits
import Dashboards.Yaml.Token.Basic

/-!
# Scalars

The three ways of writing a scalar. Plain and quoted scalars fold their lines: white space around
line breaks is dropped, a single line break stands for a space, and of several the first is dropped
(`Gap.text`). Block scalars keep their lines below an indentation that is given or found, and say
what becomes of the line breaks at their end.
-/

namespace Dashboards.Yaml

/-- What separates two words of a folded scalar. -/
inductive Gap where
  /-- Spaces and tabs within a line, last one first. -/
  | inline (reversed : List Char)
  /-- Line breaks, the later ones last one first. An escaped first line break has no text. -/
  | lines (first : Option Char) (reversed : List Char)

/-- The text that a gap stands for, last character first. -/
def Gap.text : Gap → List Char
  | inline reversed => reversed
  | lines (some '\n') [] => [' ']
  | lines (some '\n') reversed => reversed
  | lines (some c) reversed => reversed ++ [c]
  | lines none reversed => reversed

/-- Whether a gap goes over lines. -/
def Gap.multiline : Gap → Bool
  | inline _ => false
  | lines .. => true

/-- Reads the white space up to the next word. A tab before column `limit` of a new line is refused,
at its mark. -/
def readGap (limit : Nat) : List Char → Mark → Gap → Except Mark (Gap × Cursor)
  | [], mark, gap => .ok (gap, ⟨[], mark⟩)
  | '\r' :: '\n' :: rest, mark, gap =>
    readGap limit rest (mark.newline 2) <| match gap with
      | .inline _ => .lines (some '\n') []
      | .lines first reversed => .lines first ('\n' :: reversed)
  | c :: rest, mark, gap =>
    if isGap c then
      match gap with
      | .inline reversed => readGap limit rest (mark.past c) (.inline (c :: reversed))
      | .lines first reversed =>
        if mark.column < limit && c == '\t' then .error mark
        else readGap limit rest (mark.past c) (.lines first reversed)
    else if isBreak c then
      readGap limit rest (mark.newline c.utf8Size) <| match gap with
        | .inline _ => .lines (some (breakText c)) []
        | .lines first reversed => .lines first (breakText c :: reversed)
    else .ok (gap, ⟨c :: rest, mark⟩)

/-! ## Plain scalars -/

/-- Whether a character ends a plain scalar within brackets. -/
def isFlowIndicator (c : Char) : Bool :=
  c == ',' || c == '[' || c == ']' || c == '\x7b' || c == '\x7d'

/-- Whether a colon glued to this character is refused within brackets. -/
def refusesColon (c : Char) : Bool :=
  isFlowIndicator c || c == '?'

/-- The word of a plain scalar at the cursor, added to what is read so far. A colon that could only
begin a value is refused, at its mark. -/
def readPlainWord (flow : Bool) : List Char → Mark → List Char → Except Mark (List Char × Cursor)
  | [], mark, reversed => .ok (reversed, ⟨[], mark⟩)
  | c :: rest, mark, reversed =>
    if isSeparator c then .ok (reversed, ⟨c :: rest, mark⟩)
    else if flow && c == ':' && rest.head?.any refusesColon then .error mark
    else if c == ':' && separated rest || flow && isFlowIndicator c then
      .ok (reversed, ⟨c :: rest, mark⟩)
    else readPlainWord flow rest (mark.past c) (c :: reversed)

/-- A plain scalar that is read: its text, the place behind its last word, whether a line break
follows that word, and where to go on. -/
structure PlainScalar where
  text : List Char
  stop : Mark
  multiline : Bool
  next : Cursor

/-- The words of a plain scalar with the gaps between them, for at most `fuel` words. `limit` is the
least column of a continuation line outside brackets. -/
def readPlainWords (flow : Bool) (limit : Nat) (start : Mark) :
    (fuel : Nat) → Cursor → (reversed : List Char) → (gap : Gap) → (stop : Mark) →
      Except Fault PlainScalar
  | 0, cursor, reversed, gap, stop => .ok ⟨reversed.reverse, stop, gap.multiline, cursor⟩
  | fuel + 1, cursor, reversed, gap, stop =>
    let done : PlainScalar := ⟨reversed.reverse, stop, gap.multiline, cursor⟩
    if cursor.atDocumentIndicator || cursor.rest.head? == some '#' then .ok done
    else
      match readPlainWord flow cursor.rest cursor.mark [] with
      | .error mark => .error ⟨.plainColon, mark, some (.plainScalar, start)⟩
      | .ok ([], _) => .ok done
      | .ok (word, next) =>
        let reversed := word ++ gap.text ++ reversed
        if !separated next.rest || next.rest.isEmpty then
          .ok ⟨reversed.reverse, next.mark, false, next⟩
        else
          match readGap limit next.rest next.mark (.inline []) with
          | .error mark => .error ⟨.plainTab, mark, some (.plainScalar, start)⟩
          | .ok (gap, cursor) =>
            if !flow && cursor.mark.column < limit then
              .ok ⟨reversed.reverse, next.mark, gap.multiline, cursor⟩
            else readPlainWords flow limit start fuel cursor reversed gap next.mark

/-- Reads a plain scalar inside or outside brackets, below an indentation. `size` bounds the
characters that are left. -/
def readPlain (flow : Bool) (indent : Int) (size : Nat) (cursor : Cursor) :
    Except Fault PlainScalar :=
  readPlainWords flow (indent + 1).toNat cursor.mark (size + 1) cursor [] (.inline []) cursor.mark

/-! ## Quoted scalars -/

/-- A run of characters of a quoted scalar: what is read so far, whether an escaped line break ended
it, and where to go on. -/
structure QuotedRun where
  reversed : List Char
  brokenOff : Bool
  next : Cursor

/-- Reads a single-quoted scalar up to white space or the closing quote. -/
def readSingleRun : List Char → Mark → List Char → QuotedRun
  | '\x27' :: '\x27' :: rest, mark, reversed =>
    readSingleRun rest (mark.pastAll ['\x27', '\x27']) ('\x27' :: reversed)
  | c :: rest, mark, reversed =>
    if isSeparator c || c == '\x27' then ⟨reversed, false, ⟨c :: rest, mark⟩⟩
    else readSingleRun rest (mark.past c) (c :: reversed)
  | [], mark, reversed => ⟨reversed, false, ⟨[], mark⟩⟩

/-- The character that a one-letter escape stands for. -/
def escapedChar? : Char → Option Char
  | '0' => some '\x00'
  | 'a' => some '\x07'
  | 'b' => some '\x08'
  | 't' | '\t' => some '\t'
  | 'n' => some '\n'
  | 'v' => some '\x0b'
  | 'f' => some '\x0c'
  | 'r' => some '\r'
  | 'e' => some '\x1b'
  | ' ' => some ' '
  | '"' => some '"'
  | '/' => some '/'
  | '\\' => some '\\'
  | 'N' => some '\u0085'
  | '_' => some '\u00a0'
  | 'L' => some '\u2028'
  | 'P' => some '\u2029'
  | _ => none

/-- How many hexadecimal digits follow the letter of an escape. -/
def escapedDigits? : Char → Option Nat
  | 'x' => some 2
  | 'u' => some 4
  | 'U' => some 8
  | _ => none

/-- Where a reader is within an escape. -/
inductive EscapeState where
  /-- Outside escapes. -/
  | outside
  /-- Behind the backslash at a mark. -/
  | letter (start : Mark)
  /-- Before the last `missing + 1` digits; the digits began at a mark. -/
  | digits (start : Mark) (missing value : Nat)

/-- Reads a double-quoted scalar up to white space or the closing quote. -/
def readDoubleRun : List Char → Mark → EscapeState → List Char → Except (Problem × Mark) QuotedRun
  | [], mark, .outside, reversed => .ok ⟨reversed, false, ⟨[], mark⟩⟩
  | [], _, .letter start, _ => .error (.escapeUnknown, start)
  | [], _, .digits start _ _, _ => .error (.hexMissing, start)
  | c :: rest, mark, .outside, reversed =>
    if isSeparator c || c == '"' then .ok ⟨reversed, false, ⟨c :: rest, mark⟩⟩
    else if c == '\\' then readDoubleRun rest (mark.past c) (.letter mark) reversed
    else readDoubleRun rest (mark.past c) .outside (c :: reversed)
  | c :: rest, mark, .letter start, reversed =>
    if isBreak c then .ok ⟨reversed, true, (⟨c :: rest, mark⟩ : Cursor).skipBreak⟩
    else
      match escapedChar? c, escapedDigits? c with
      | some d, _ => readDoubleRun rest (mark.past c) .outside (d :: reversed)
      | none, some n =>
        readDoubleRun rest (mark.past c) (.digits (mark.past c) (n - 1) 0) reversed
      | none, none => .error (.escapeUnknown, start)
  | c :: rest, mark, .digits start missing value, reversed =>
    match Text.hexDigit? c, missing with
    | none, _ => .error (.hexMissing, start)
    | some d, missing + 1 =>
      readDoubleRun rest (mark.past c) (.digits start missing (16 * value + d)) reversed
    | some d, 0 =>
      let code := 16 * value + d
      if code.isValidChar then
        readDoubleRun rest (mark.past c) .outside (Char.ofNat code :: reversed)
      else .error (.escapeNoCharacter, start)

/-- A scalar that is read, and where to go on. -/
structure ScalarRead where
  text : List Char
  next : Cursor

/-- The rest of a quoted scalar, for at most `fuel` words. -/
def readQuotedWords (single : Bool) (start : Mark) :
    (fuel : Nat) → Cursor → (reversed : List Char) → Except Fault ScalarRead
  | 0, cursor, reversed => .ok ⟨reversed.reverse, cursor⟩
  | fuel + 1, cursor, reversed =>
    let fault (problem : Problem) (mark : Mark) : Except Fault ScalarRead :=
      .error ⟨problem, mark, some (.quotedScalar, start)⟩
    if cursor.atDocumentIndicator then fault .documentIndicator cursor.mark
    else if cursor.rest.isEmpty then fault .endOfStream cursor.mark
    else
      let run :=
        if single then .ok (readSingleRun cursor.rest cursor.mark reversed)
        else readDoubleRun cursor.rest cursor.mark .outside reversed
      match run with
      | .error (problem, mark) => .error ⟨problem, mark, some (.quotedEscape, start)⟩
      | .ok run =>
        if run.next.rest.head? == some (if single then '\x27' else '"') then
          .ok ⟨run.reversed.reverse, run.next.skip 1⟩
        else
          let opening := if run.brokenOff then .lines none [] else .inline []
          match readGap 0 run.next.rest run.next.mark opening with
          | .error mark => fault .plainTab mark
          | .ok (gap, cursor) =>
            readQuotedWords single start fuel cursor (gap.text ++ run.reversed)

/-- Reads a quoted scalar from its opening quote on. `size` bounds the characters that are left. -/
def readQuoted (single : Bool) (size : Nat) (cursor : Cursor) : Except Fault ScalarRead :=
  readQuotedWords single cursor.mark (size + 1) (cursor.skip 1) []

/-! ## Block scalars -/

/-- What becomes of the line breaks at the end of a block scalar. -/
inductive Chomping where
  | strip | clip | keep
deriving DecidableEq

/-- What the header of a block scalar may say: the chomping, and the indentation in columns. -/
structure BlockHeader where
  chomping : Chomping
  increment : Option Nat

/-- Reads a chomping indicator, if there is one. -/
def readChomping (cursor : Cursor) : Option Chomping × Cursor :=
  match cursor.rest with
  | '+' :: _ => (some .keep, cursor.skip 1)
  | '-' :: _ => (some .strip, cursor.skip 1)
  | _ => (none, cursor)

/-- Reads an indentation indicator, if there is one. Zero is none. -/
def readIncrement (start : Mark) (cursor : Cursor) : Except Fault (Option Nat × Cursor) :=
  match cursor.rest with
  | c :: _ =>
    if c.isDigit then
      if c == '0' then .error ⟨.indentationZero, cursor.mark, some (.blockScalar, start)⟩
      else .ok (some (c.toNat - 48), cursor.skip 1)
    else .ok (none, cursor)
  | [] => .ok (none, cursor)

/-- Reads the two indicators of a header, which stand in either order. -/
def readBlockHeader (start : Mark) (cursor : Cursor) : Except Fault (BlockHeader × Cursor) := do
  match readChomping cursor with
  | (some chomping, cursor) =>
    let (increment, cursor) ← readIncrement start cursor
    return (⟨chomping, increment⟩, cursor)
  | (none, cursor) =>
    let (increment, cursor) ← readIncrement start cursor
    match increment with
    | none => return (⟨.clip, none⟩, cursor)
    | some _ =>
      let (chomping, cursor) := readChomping cursor
      return (⟨chomping.getD .clip, increment⟩, cursor)

/-- The blank lines of a block scalar: their line breaks last one first, the widest indentation met,
the place behind the last of them, and where to go on. -/
structure BlankLines where
  reversed : List Char
  widest : Nat
  stop : Mark
  next : Cursor

/-- Reads blank lines, taking the spaces before column `indent`, or all of them while the
indentation is not known. A tab among them is refused, at its mark. -/
def readBlankLines (indent : Option Nat) :
    List Char → Mark → (reversed : List Char) → (widest : Nat) → (stop : Mark) →
      Except Mark BlankLines
  | [], mark, reversed, widest, stop => .ok ⟨reversed, max widest mark.column, stop, ⟨[], mark⟩⟩
  | '\r' :: '\n' :: rest, mark, reversed, widest, _ =>
    readBlankLines indent rest (mark.newline 2) ('\n' :: reversed) (max widest mark.column)
      (mark.newline 2)
  | c :: rest, mark, reversed, widest, stop =>
    let inside := indent.all (mark.column < ·)
    if inside && c == ' ' then
      readBlankLines indent rest (mark.past c) reversed widest stop
    else if inside && c == '\t' then .error mark
    else if isBreak c then
      readBlankLines indent rest (mark.newline c.utf8Size) (breakText c :: reversed)
        (max widest mark.column) (mark.newline c.utf8Size)
    else .ok ⟨reversed, max widest mark.column, stop, ⟨c :: rest, mark⟩⟩

/-- A block scalar that is read: its text, the place behind it, and where to go on. -/
structure BlockScalar where
  text : List Char
  stop : Mark
  next : Cursor

/-- The lines of a block scalar, for at most `fuel` lines. `ending` is the line break of the last
line and `blank` the blank lines behind it; `wasBlank` tells whether that line began with white
space. A folded scalar writes the line break between two lines as a space, or drops it before blank
lines, unless one of the lines begins with white space. -/
def readBlockLines (folded : Bool) (chomping : Chomping) (start : Mark) (indent : Nat) :
    (fuel : Nat) → BlankLines → (reversed : List Char) → (ending : Option Char) →
      (wasBlank : Bool) → Except Fault BlockScalar
  | 0, blank, reversed, _, _ => .ok ⟨reversed.reverse, blank.stop, blank.next⟩
  | fuel + 1, blank, reversed, ending, wasBlank =>
    let cursor := blank.next
    if cursor.mark.column == indent && !cursor.rest.isEmpty then
      let isBlank := cursor.rest.head?.any isGap
      let joined :=
        if folded && ending == some '\n' && !wasBlank && !isBlank then
          if blank.reversed.isEmpty then ' ' :: reversed else blank.reversed ++ reversed
        else blank.reversed ++ (ending.toList ++ reversed)
      let (line, behind) := cursor.takeWhile fun c => !isBreak c
      let reversed := line.reverse ++ joined
      let (ending, behind) := match behind.lineBreak? with
        | some (c, next) => (some c, next)
        | none => (none, behind)
      match readBlankLines (some indent) behind.rest behind.mark [] 0 behind.mark with
      | .error mark => .error ⟨.indentationTab, mark, some (.blockScalar, start)⟩
      | .ok blank =>
        readBlockLines folded chomping start indent fuel blank reversed ending isBlank
    else
      let text := match chomping with
        | .strip => reversed
        | .clip => ending.toList ++ reversed
        | .keep => blank.reversed ++ (ending.toList ++ reversed)
      .ok ⟨text.reverse, blank.stop, cursor⟩

/-- Reads a block scalar from its indicator on, inside a block of an indentation. `size` bounds the
characters that are left. -/
def readBlock (folded : Bool) (parent : Int) (size : Nat) (cursor : Cursor) :
    Except Fault BlockScalar := do
  let start := cursor.mark
  let (header, cursor) ← readBlockHeader start (cursor.skip 1)
  let cursor := cursor.skipWhile isGap
  let cursor :=
    if cursor.rest.head? == some '#' then cursor.skipWhile fun c => !isBreak c else cursor
  if !lineEnded cursor.rest then
    throw ⟨.commentOrBreakMissing, cursor.mark, some (.blockScalar, start)⟩
  let cursor := cursor.skipBreak
  let given := header.increment.map fun n => (max parent 0).toNat + n
  match readBlankLines given cursor.rest cursor.mark [] 0 cursor.mark with
  | .error mark => throw ⟨.indentationTab, mark, some (.blockScalar, start)⟩
  | .ok blank =>
    let indent := given.getD (max (max blank.widest (parent + 1).toNat) 1)
    readBlockLines folded header.chomping start indent (size + 1) blank [] none false

end Dashboards.Yaml
