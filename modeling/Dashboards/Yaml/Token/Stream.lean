import Dashboards.Yaml.Token.Scalar
import Dashboards.Yaml.Token.Property

/-!
# The tokens of a document

A `TokenReader` goes through a document token by token. Whether a node is the key of a mapping shows
only at the colon behind it, so the reader remembers where a key may have begun (`PossibleKey`) and
puts the tokens that announce it there once the colon is met. A possible key lapses at the end of
its line or after 1024 bytes.

If the text is malformed, the tokens before the fault count (`TokenStream`), except that a token
whose meaning still depends on a possible key is withheld with all that follow it. The same holds
where a `Barrier` keeps the reader from reading on.
-/

namespace Dashboards.Yaml

/-- A place where a key may have begun: the number of the token that would start it, and whether a
node at this place can be nothing but a key. -/
structure PossibleKey where
  number : Nat
  mark : Mark
  required : Bool
deriving Inhabited

/-- The state of reading tokens. -/
structure TokenReader where
  /-- How many characters the text has. -/
  size : Nat
  /-- What is still to be read. -/
  cursor : Cursor
  /-- The tokens so far, last one first. -/
  reversed : List Token := []
  /-- How many tokens there are. -/
  count : Nat := 0
  /-- The possible key of the innermost bracket, or of the block outside brackets. -/
  key : Option PossibleKey := none
  /-- The possible keys around it, innermost first, one for each open bracket. -/
  outerKeys : List (Option PossibleKey) := []
  /-- The column of the innermost block collection, `-1` outside all. -/
  indent : Int := -1
  /-- The columns of the collections around it, innermost first. -/
  outerIndents : List Int := []
  /-- Whether a key may begin here. -/
  keyAllowed : Bool := true
  /-- Whether the end of the text has become a token. -/
  finished : Bool := false

namespace TokenReader

/-- Whether the place is within brackets. -/
def inFlow (s : TokenReader) : Bool := !s.outerKeys.isEmpty

/-- The column of the next character. -/
def column (s : TokenReader) : Int := s.cursor.mark.column

/-- Adds a token at the end. -/
def emit (s : TokenReader) (token : Token) : TokenReader :=
  { s with reversed := token :: s.reversed, count := s.count + 1 }

/-- Adds a token in front of the token with a number. -/
def emitBefore (s : TokenReader) (number : Nat) (token : Token) : TokenReader :=
  let later := s.count - number
  { s with
    reversed := s.reversed.take later ++ token :: s.reversed.drop later
    count := s.count + 1 }

/-- Adds a token that takes no characters. -/
def emitHere (s : TokenReader) (kind : TokenKind) : TokenReader :=
  s.emit ⟨kind, s.cursor.mark, s.cursor.mark⟩

/-- Adds the token that the next characters are. -/
def emitNext (s : TokenReader) (kind : TokenKind) (length : Nat) : TokenReader :=
  let next := s.cursor.skip length
  { s.emit ⟨kind, s.cursor.mark, next.mark⟩ with cursor := next }

/-- Whether a possible key has lapsed at a place. -/
def lapsed (mark : Mark) (key : PossibleKey) : Bool :=
  key.mark.line < mark.line || key.mark.offset + 1024 < mark.offset

/-- Forgets a key that has lapsed. It is a fault if it was required. -/
def checkKey (mark : Mark) : Option PossibleKey → Except Fault (Option PossibleKey)
  | none => .ok none
  | some key =>
    if lapsed mark key then
      if key.required then .error ⟨.keyWithoutValue, mark, some (.simpleKey, key.mark)⟩
      else .ok none
    else .ok (some key)

/-- Forgets all keys that have lapsed, the outermost first. -/
def dropLapsedKeys (s : TokenReader) : Except Fault TokenReader := do
  let outer ← s.outerKeys.reverse.mapM (checkKey s.cursor.mark)
  let key ← checkKey s.cursor.mark s.key
  return { s with key, outerKeys := outer.reverse }

/-- Gives up the innermost possible key. It is a fault if it was required. -/
def removeKey (s : TokenReader) : Except Fault TokenReader :=
  match s.key with
  | some key =>
    if key.required then .error ⟨.keyWithoutValue, s.cursor.mark, some (.simpleKey, key.mark)⟩
    else .ok { s with key := none }
  | none => .ok s

/-- Remembers that a key may begin here. -/
def saveKey (s : TokenReader) : Except Fault TokenReader := do
  if s.keyAllowed then
    let s ← s.removeKey
    let required := !s.inFlow && s.indent == s.column
    return { s with key := some ⟨s.count, s.cursor.mark, required⟩ }
  else return s

/-- Opens a block collection at a column if it is further right than the innermost one. The token
that says so goes in front of the token with a number, or at the end. -/
def openBlock (s : TokenReader) (column : Int) (number : Option Nat) (kind : TokenKind)
    (mark : Mark) : TokenReader :=
  if s.inFlow || column ≤ s.indent then s
  else
    let token : Token := ⟨kind, mark, mark⟩
    let s := match number with
      | some number => s.emitBefore number token
      | none => s.emit token
    { s with indent := column, outerIndents := s.indent :: s.outerIndents }

/-- Closes block collections further right than a column, given the columns around them. -/
def closeBlocksTo (column : Int) : List Int → TokenReader → TokenReader
  | [], s => s
  | outer :: rest, s =>
    if column < s.indent then
      closeBlocksTo column rest { s.emitHere .blockEnd with indent := outer, outerIndents := rest }
    else s

/-- Closes the block collections further right than a column. -/
def closeBlocks (s : TokenReader) (column : Int) : TokenReader :=
  if s.inFlow then s else closeBlocksTo column s.outerIndents s

/-- Skips white space, comments and line breaks, and a byte order mark at the start of a line, which
takes a column. Outside brackets (`flow` is false) a new line may begin with a key. Where a key may
begin, tabs are no white space. Gives whether a key may begin at the end. -/
def skipSpace (flow : Bool) : (keyAllowed comment : Bool) → List Char → Mark → Bool × Cursor
  | keyAllowed, _, [], mark => (keyAllowed, ⟨[], mark⟩)
  | keyAllowed, _, '\r' :: '\n' :: rest, mark =>
    skipSpace flow (keyAllowed || !flow) false rest (mark.newline 2)
  | keyAllowed, comment, c :: rest, mark =>
    if isBreak c then skipSpace flow (keyAllowed || !flow) false rest (mark.newline c.utf8Size)
    else if comment || c == '#' then skipSpace flow keyAllowed true rest (mark.past c)
    else if c == ' ' || c == '\t' && (flow || !keyAllowed) || c == '\ufeff' && mark.column == 0 then
      skipSpace flow keyAllowed false rest (mark.past c)
    else (keyAllowed, ⟨c :: rest, mark⟩)

/-- Goes on to the next token. -/
def skipToToken (s : TokenReader) : TokenReader :=
  let (keyAllowed, cursor) := skipSpace s.inFlow s.keyAllowed false s.cursor.rest s.cursor.mark
  { s with keyAllowed, cursor }

/-- The end of the text. It counts as the beginning of a line. -/
def readEnd (s : TokenReader) : Except Fault TokenReader := do
  let mark := s.cursor.mark
  let mark := if mark.column = 0 then mark else mark.newline 0
  let s := { s with cursor := { s.cursor with mark } }
  let s ← (s.closeBlocks (-1)).removeKey
  return { s.emitHere .streamEnd with keyAllowed := false, finished := true }

/-- A directive. -/
def readDirectiveLine (s : TokenReader) : Except Fault TokenReader := do
  let s ← (s.closeBlocks (-1)).removeKey
  let (token, next) ← readDirective s.cursor
  return { s.emit token with cursor := next, keyAllowed := false }

/-- The start or the end of a document. -/
def readDocumentIndicator (s : TokenReader) (kind : TokenKind) : Except Fault TokenReader := do
  let s ← (s.closeBlocks (-1)).removeKey
  return { s.emitNext kind 3 with keyAllowed := false }

/-- An opening bracket. -/
def readOpen (s : TokenReader) (kind : TokenKind) : Except Fault TokenReader := do
  let s ← s.saveKey
  return {
    s.emitNext kind 1 with key := none, outerKeys := s.key :: s.outerKeys, keyAllowed := true }

/-- A closing bracket. -/
def readClose (s : TokenReader) (kind : TokenKind) : Except Fault TokenReader := do
  let s ← s.removeKey
  let s := match s.outerKeys with
    | [] => s
    | key :: rest => { s with key, outerKeys := rest }
  return { s.emitNext kind 1 with keyAllowed := false }

/-- A comma within brackets. -/
def readFlowEntry (s : TokenReader) : Except Fault TokenReader := do
  let s ← s.removeKey
  return { s.emitNext .flowEntry 1 with keyAllowed := true }

/-- Opens a block collection here, where that is allowed, unless the place is within brackets. -/
def openBlockHere (s : TokenReader) (kind : TokenKind) (problem : Problem) :
    Except Fault TokenReader :=
  if s.inFlow then .ok s
  else if s.keyAllowed then .ok (s.openBlock s.column none kind s.cursor.mark)
  else .error ⟨problem, s.cursor.mark, none⟩

/-- The dash of a sequence. -/
def readBlockEntry (s : TokenReader) : Except Fault TokenReader := do
  let s ← s.openBlockHere .blockSequenceStart .blockEntryHere
  let s ← s.removeKey
  return { s.emitNext .blockEntry 1 with keyAllowed := true }

/-- The question mark of a key. -/
def readKey (s : TokenReader) : Except Fault TokenReader := do
  let s ← s.openBlockHere .blockMappingStart .mappingKeyHere
  let s ← s.removeKey
  return { s.emitNext .key 1 with keyAllowed := !s.inFlow }

/-- The colon of a value. What was a possible key is one now. -/
def readValue (s : TokenReader) : Except Fault TokenReader := do
  match s.key with
  | some key =>
    let s := s.emitBefore key.number ⟨.key, key.mark, key.mark⟩
    let s := s.openBlock key.mark.column (some key.number) .blockMappingStart key.mark
    return { s.emitNext .value 1 with key := none, keyAllowed := false }
  | none =>
    let s ← s.openBlockHere .blockMappingStart .mappingValueHere
    return { s.emitNext .value 1 with keyAllowed := !s.inFlow }

/-- An anchor or an alias. -/
def readAnchor (s : TokenReader) (during : Construct) (kind : String → TokenKind) :
    Except Fault TokenReader := do
  let s ← s.saveKey
  let (name, next) ← readAnchorName during s.cursor
  return { s.emit ⟨kind name, s.cursor.mark, next.mark⟩ with cursor := next, keyAllowed := false }

/-- A tag. -/
def readTagToken (s : TokenReader) : Except Fault TokenReader := do
  let s ← s.saveKey
  let (kind, next) ← readTag s.inFlow s.cursor
  return { s.emit ⟨kind, s.cursor.mark, next.mark⟩ with cursor := next, keyAllowed := false }

/-- A block scalar. It is never a key. -/
def readBlockScalar (s : TokenReader) (folded : Bool) : Except Fault TokenReader := do
  let s ← s.removeKey
  let scalar ← readBlock folded s.indent s.size s.cursor
  let kind := .scalar (String.ofList scalar.text) (if folded then .folded else .literal)
  return {
    s.emit ⟨kind, s.cursor.mark, scalar.stop⟩ with cursor := scalar.next, keyAllowed := true }

/-- A quoted scalar. -/
def readQuotedScalar (s : TokenReader) (single : Bool) : Except Fault TokenReader := do
  let s ← s.saveKey
  let scalar ← readQuoted single s.size s.cursor
  let kind :=
    .scalar (String.ofList scalar.text) (if single then .singleQuoted else .doubleQuoted)
  return { s.emit ⟨kind, s.cursor.mark, scalar.next.mark⟩ with
    cursor := scalar.next, keyAllowed := false }

/-- A plain scalar. A line break behind it lets a key begin. -/
def readPlainScalar (s : TokenReader) : Except Fault TokenReader := do
  let s ← s.saveKey
  let scalar ← readPlain s.inFlow s.indent s.size s.cursor
  let kind := .scalar (String.ofList scalar.text) .plain
  return { s.emit ⟨kind, s.cursor.mark, scalar.stop⟩ with
    cursor := scalar.next, keyAllowed := scalar.multiline }

/-- Whether a character has a meaning of its own at the start of a token. -/
def isIndicator (c : Char) : Bool :=
  c == '-' || c == '?' || c == ':' || c == ',' || c == '[' || c == ']' || c == '\x7b' ||
    c == '\x7d' || c == '#' || c == '&' || c == '*' || c == '!' || c == '|' || c == '>' ||
    c == '\x27' || c == '"' || c == '%' || c == '@' || c == '\x60'

/-- Whether a plain scalar may begin with a character that the given characters follow. -/
def startsPlain (flow : Bool) (c : Char) (rest : List Char) : Bool :=
  !(isSeparator c || isIndicator c) || c == '-' && !rest.head?.any isGap ||
    !flow && (c == '?' || c == ':') && !separated rest

/-- Reads the token that begins with a character, outside the special lines. -/
def readToken (s : TokenReader) (c : Char) (rest : List Char) : Except Fault TokenReader :=
  let closed := separated rest
  match c with
  | '[' => s.readOpen .flowSequenceStart
  | '\x7b' => s.readOpen .flowMappingStart
  | ']' => s.readClose .flowSequenceEnd
  | '\x7d' => s.readClose .flowMappingEnd
  | ',' => s.readFlowEntry
  | '*' => s.readAnchor .aliasName .aliasName
  | '&' => s.readAnchor .anchor .anchor
  | '!' => s.readTagToken
  | '\x27' => s.readQuotedScalar true
  | '"' => s.readQuotedScalar false
  | c =>
    if c == '-' && closed then s.readBlockEntry
    else if c == '?' && (s.inFlow || closed) then s.readKey
    else if c == ':' && (s.inFlow || closed) then s.readValue
    else if c == '|' && !s.inFlow then s.readBlockScalar false
    else if c == '>' && !s.inFlow then s.readBlockScalar true
    else if startsPlain s.inFlow c rest then s.readPlainScalar
    else .error ⟨.noToken, s.cursor.mark, some (.nextToken, s.cursor.mark)⟩

/-- Reads the token that begins here and, with it, the tokens that the indentation implies. -/
def step (s : TokenReader) : Except Fault TokenReader := do
  let s ← s.dropLapsedKeys
  let s := s.closeBlocks s.column
  let s ← match s.cursor.rest with
    | [] => s.readEnd
    | c :: rest =>
      if s.column == 0 && c == '%' then s.readDirectiveLine
      else if s.cursor.atIndicator '-' then s.readDocumentIndicator .documentStart
      else if s.cursor.atIndicator '.' then s.readDocumentIndicator .documentEnd
      else s.readToken c rest
  s.dropLapsedKeys

/-- The number of the first token whose meaning is not settled yet. -/
def firstUnsettled (s : TokenReader) : Nat :=
  (s.key :: s.outerKeys).foldl
    (fun least key => match key with
      | some key => min least key.number
      | none => least)
    s.count

end TokenReader

/-- A place in a text behind which nothing can be read, so many bytes into it, and the reason. -/
structure Barrier where
  offset : Nat
  error : Error

namespace Barrier

/-- Whether a barrier stops a reader where a token begins. It looks at four characters there. -/
def stopsAt (barrier : Barrier) (cursor : Cursor) : Bool :=
  barrier.offset < (cursor.mark.pastAll (cursor.rest.take 4)).offset

/-- Whether a barrier stops a reader before it is through with a token or notices a fault in it. -/
def stopsIn (barrier : Barrier) (token : Except Fault TokenReader) : Bool :=
  match token with
  | .ok next => barrier.offset ≤ next.cursor.mark.offset
  | .error fault => barrier.offset ≤ fault.mark.offset

end Barrier

/-- The tokens of a text, and the error that ended them if there is one. -/
structure TokenStream where
  tokens : List Token
  error : Option Error := none

namespace TokenStream

/-- Reads on from a state for at most `fuel` tokens. -/
def readFrom (barrier : Option Barrier) : (fuel : Nat) → TokenReader → TokenStream
  | 0, s => ⟨s.reversed.reverse, none⟩
  | fuel + 1, s =>
    if s.finished then ⟨s.reversed.reverse, none⟩
    else
      let failed (error : Error) : TokenStream :=
        ⟨s.reversed.reverse.take s.firstUnsettled, some error⟩
      let here := s.skipToToken
      let token := here.step
      match barrier.filter fun barrier => barrier.stopsAt here.cursor || barrier.stopsIn token with
      | some barrier => failed barrier.error
      | none =>
        match token with
        | .ok next => readFrom barrier fuel next
        | .error fault => failed (.malformed fault)

/-- The tokens of a text up to a barrier. Every token takes at least one character, so the length of
the text bounds their number. -/
def ofChars (text : List Char) (barrier : Option Barrier) : TokenStream :=
  let size := text.length
  readFrom barrier (size + 2) (TokenReader.emitHere { size, cursor := ⟨text, {}⟩ } .streamStart)

end TokenStream

end Dashboards.Yaml
