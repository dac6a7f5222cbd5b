import Dashboards.Yaml.Node.Basic
import Dashboards.Yaml.Token.Stream

/-!
# From tokens to nodes

`Document.ofTokens` builds the tree of the first document from the tokens. Each reader takes tokens
from the front and gives the nodes that they form together with the state behind them, or with the
error that cuts the tree off there. The grammar is that of the token language: a node is an alias,
or a scalar or a collection with at most one anchor and one tag before it; an omitted node is an
empty plain scalar.
-/

namespace Dashboards.Yaml

/-- The state of reading nodes. -/
structure NodeReader where
  /-- The tokens still to be read. -/
  tokens : List Token
  /-- The error that ends the tokens. -/
  ending : Error
  /-- The tag handles and what they stand for. -/
  handles : List (String × Tag) := []
  /-- The names of the anchors so far with the numbers of the nodes they stand for. -/
  anchors : List (String × Nat) := []

namespace NodeReader

/-- The state behind some nodes, or the error that ended them. -/
abbrev After := Except Error NodeReader

/-- The next token. -/
def peek (c : NodeReader) : Except Error Token :=
  match c.tokens with
  | token :: _ => .ok token
  | [] => .error c.ending

/-- The state behind the next token. -/
def drop (c : NodeReader) : NodeReader :=
  { c with tokens := c.tokens.tail }

/-- An omitted node. -/
def omitted (mark : Mark) : Node :=
  .scalar mark none none .plain ""

/-- A fault at a token. -/
def faultAt {α : Type} (problem : Problem) (token : Token) (during : Construct) (since : Mark) :
    Except Error α :=
  .error (.malformed ⟨problem, token.start, some (during, since)⟩)

/-- Gives the name of an anchor the next number, which is the number of names so far. A name that is
used again keeps one place among the names. -/
def define (c : NodeReader) (name : String) : Nat × NodeReader :=
  let number := c.anchors.length
  (number, { c with anchors := (name, number) :: c.anchors.filter fun a => a.1 != name })

/-- The anchor and the tag before a node, and where they begin. -/
structure Properties where
  anchor : Option String := none
  tag : Option (String × Tag × Mark) := none
  start : Mark

/-- Reads the anchor and the tag before a node, in either order. -/
def properties (c : NodeReader) : Except Error (Properties × Token × NodeReader) := do
  let first ← c.peek
  match first.kind with
  | .anchor name =>
    let c := c.drop
    let second ← c.peek
    match second.kind with
    | .tag handle suffix =>
      let c := c.drop
      return (⟨some name, some (handle, suffix, second.start), first.start⟩, ← c.peek, c)
    | _ => return (⟨some name, none, first.start⟩, second, c)
  | .tag handle suffix =>
    let c := c.drop
    let second ← c.peek
    match second.kind with
    | .anchor name =>
      let c := c.drop
      return (⟨some name, some (handle, suffix, first.start), first.start⟩, ← c.peek, c)
    | _ => return (⟨none, some (handle, suffix, first.start), first.start⟩, second, c)
  | _ => return (⟨none, none, first.start⟩, first, c)

/-- The tag that a handle and a suffix stand for. -/
def resolveTag (c : NodeReader) (start : Mark) :
    Option (String × Tag × Mark) → Except Error (Option Tag)
  | none => .ok none
  | some (handle, suffix, mark) =>
    if handle.isEmpty then .ok (some suffix)
    else
      match c.handles.lookup handle with
      | some replacement => .ok (some (replacement ++ suffix))
      | none => .error (.malformed ⟨.tagHandleUndefined, mark, some (.node, start)⟩)

/-- Gives the anchor of a node its number. -/
def number (c : NodeReader) : Option String → Option Nat × NodeReader
  | none => (none, c)
  | some name =>
    let (number, c) := c.define name
    (some number, c)

/-- The context in which a node is read. -/
inductive Place where
  /-- Where block collections may begin. -/
  | block
  /-- In a block mapping, where a sequence may stand without further indentation. -/
  | inMapping
  /-- Within brackets. -/
  | flow
deriving DecidableEq

/-- Reads a node unless the next token is of a kind that shows that it is omitted. An omitted node
stands at the next token. -/
def unlessKind (absent : TokenKind → Bool) (read : NodeReader → Node × After) (c : NodeReader) :
    Node × After :=
  match c.peek with
  | .error e => (.lost, .error e)
  | .ok token => if absent token.kind then (omitted token.start, .ok c) else read c

/-- Reads a node behind an indicator that ends at a mark, unless the next token is of a kind that
shows that it is omitted. An omitted node stands behind the indicator. -/
def entryNode (absent : TokenKind → Bool) (read : NodeReader → Node × After) (stop : Mark)
    (c : NodeReader) : Node × After :=
  match c.peek with
  | .error e => (.lost, .error e)
  | .ok token => if absent token.kind then (omitted stop, .ok c) else read c

/-- Whether a token shows that a key or a value of a block mapping is omitted. -/
def endsBlockEntry (kind : TokenKind) : Bool :=
  kind matches .key | .value | .blockEnd

/-- Reads the value of a key in a block mapping. -/
def blockValue (read : NodeReader → Node × After) (c : NodeReader) : Node × After :=
  match c.peek with
  | .error e => (.lost, .error e)
  | .ok token =>
    match token.kind with
    | .value => entryNode endsBlockEntry read token.stop c.drop
    | _ => (omitted token.start, .ok c)

/-- Reads the value of a key within brackets. -/
def flowValue (absent : TokenKind → Bool) (read : NodeReader → Node × After) (c : NodeReader) :
    Node × After :=
  match c.peek with
  | .error e => (.lost, .error e)
  | .ok token =>
    match token.kind with
    | .value => unlessKind absent read c.drop
    | _ => (omitted token.start, .ok c)

/-- The omitted value of a key that stands alone. -/
def noValue (c : NodeReader) : Node × After :=
  match c.peek with
  | .error e => (.lost, .error e)
  | .ok token => (omitted token.start, .ok c)

/-- Reads on behind an element, unless the tree is cut off in it. -/
def moreItems (more : NodeReader → List Node × After) : Node × After → List Node × After
  | (item, .error e) => ([item], .error e)
  | (item, .ok c) =>
    let rest := more c
    (item :: rest.1, rest.2)

/-- Reads a value behind its key and then on, unless the tree is cut off in one of them. -/
def moreEntries (more : NodeReader → List (Node × Node) × After)
    (value : NodeReader → Node × After) : Node × After → List (Node × Node) × After
  | (key, .error e) => ([(key, .lost)], .error e)
  | (key, .ok c) =>
    match value c with
    | (value, .error e) => ([(key, value)], .error e)
    | (value, .ok c) =>
      let rest := more c
      ((key, value) :: rest.1, rest.2)

/-- Goes past the comma before an element within brackets, unless it is the first one. Gives the
token that the element begins with. -/
def enterItem (first : Bool) (problem : Problem) (during : Construct) (since : Mark)
    (token : Token) (c : NodeReader) : Except Error (Token × NodeReader) := do
  if first then return (token, c)
  else if token.kind = .flowEntry then return (← c.drop.peek, c.drop)
  else faultAt problem token during since

mutual

/-- Reads a node. -/
def node (place : Place) : (fuel : Nat) → NodeReader → Node × After
  | 0, c => (.lost, .error c.ending)
  | fuel + 1, c =>
    match c.peek with
    | .error e => (.lost, .error e)
    | .ok token =>
      match token.kind with
      | .aliasName name =>
        match c.anchors.lookup name with
        | some number => (.reference token.start number, .ok c.drop)
        | none => (.lost, .error (.unknownAnchor token.start))
      | _ =>
        match c.properties with
        | .error e => (.lost, .error e)
        | .ok (properties, token, c) =>
          match c.resolveTag properties.start properties.tag with
          | .error e => (.lost, .error e)
          | .ok tag => content place fuel properties tag token c

/-- Reads what follows the properties of a node; `token` is the next token. -/
def content (place : Place) :
    (fuel : Nat) → Properties → Option Tag → Token → NodeReader → Node × After
  | 0, _, _, _, c => (.lost, .error c.ending)
  | fuel + 1, properties, tag, token, c =>
    let start := properties.start
    let (anchor, behind) := c.number properties.anchor
    let sequence (result : List Node × After) : Node × After :=
      (.sequence start anchor tag result.1, result.2)
    let mapping (result : List (Node × Node) × After) : Node × After :=
      (.mapping start anchor tag result.1, result.2)
    match place, token.kind with
    | .inMapping, .blockEntry => sequence (compactItems fuel behind)
    | _, .scalar text style =>
      (.scalar start anchor tag style text, .ok behind.drop)
    | _, .flowSequenceStart => sequence (flowItems true token.start fuel behind.drop)
    | _, .flowMappingStart => mapping (flowEntries true token.start fuel behind.drop)
    | .block, .blockSequenceStart | .inMapping, .blockSequenceStart =>
      sequence (blockItems token.start fuel behind.drop)
    | .block, .blockMappingStart | .inMapping, .blockMappingStart =>
      mapping (blockEntries token.start fuel behind.drop)
    | _, _ =>
      if anchor.isSome || tag.isSome then (.scalar start anchor tag .plain "", .ok behind)
      else
        (.lost, faultAt .contentMissing token
          (if place = .flow then .flowNode else .blockNode) start)

/-- Reads the elements of a block sequence that began at a mark. -/
def blockItems (since : Mark) : (fuel : Nat) → NodeReader → List Node × After
  | 0, c => ([.lost], .error c.ending)
  | fuel + 1, c =>
    match c.peek with
    | .error e => ([.lost], .error e)
    | .ok token =>
      match token.kind with
      | .blockEntry =>
        moreItems (fun c => blockItems since fuel c)
          (entryNode (fun kind => kind matches .blockEntry | .blockEnd)
            (fun c => node .block fuel c) token.stop c.drop)
      | .blockEnd => ([], .ok c.drop)
      | _ => ([.lost], faultAt .blockEntryMissing token .blockCollection since)

/-- Reads the elements of a sequence that is not indented within its mapping. -/
def compactItems : (fuel : Nat) → NodeReader → List Node × After
  | 0, c => ([.lost], .error c.ending)
  | fuel + 1, c =>
    match c.peek with
    | .error e => ([.lost], .error e)
    | .ok token =>
      match token.kind with
      | .blockEntry =>
        moreItems (fun c => compactItems fuel c)
          (entryNode (fun kind => kind matches .blockEntry | .key | .value | .blockEnd)
            (fun c => node .block fuel c) token.stop c.drop)
      | _ => ([], .ok c)

/-- Reads the entries of a block mapping that began at a mark. -/
def blockEntries (since : Mark) : (fuel : Nat) → NodeReader → List (Node × Node) × After
  | 0, c => ([(.lost, .lost)], .error c.ending)
  | fuel + 1, c =>
    match c.peek with
    | .error e => ([(.lost, .lost)], .error e)
    | .ok token =>
      match token.kind with
      | .key =>
        moreEntries (fun c => blockEntries since fuel c)
          (blockValue fun c => node .inMapping fuel c)
          (entryNode endsBlockEntry (fun c => node .inMapping fuel c) token.stop c.drop)
      | .blockEnd => ([], .ok c.drop)
      | _ => ([(.lost, .lost)], faultAt .mappingKeyMissing token .blockMapping since)

/-- Reads the elements of a sequence in brackets that began at a mark. -/
def flowItems (first : Bool) (since : Mark) : (fuel : Nat) → NodeReader → List Node × After
  | 0, c => ([.lost], .error c.ending)
  | fuel + 1, c =>
    match c.peek with
    | .error e => ([.lost], .error e)
    | .ok token =>
      match token.kind with
      | .flowSequenceEnd => ([], .ok c.drop)
      | _ =>
        match enterItem first .sequenceCloseMissing .flowSequence since token c with
        | .error e => ([.lost], .error e)
        | .ok (token, c) =>
          match token.kind with
          | .flowSequenceEnd => ([], .ok c.drop)
          | .key =>
            let pair := flowPair fuel c.drop
            moreItems (fun c => flowItems false since fuel c)
              (.mapping token.start none none pair.1, pair.2)
          | _ =>
            moreItems (fun c => flowItems false since fuel c) (node .flow fuel c)

/-- Reads the only entry of a mapping that is an element of a sequence in brackets. -/
def flowPair : (fuel : Nat) → NodeReader → List (Node × Node) × After
  | 0, c => ([(.lost, .lost)], .error c.ending)
  | fuel + 1, c =>
    match c.peek with
    | .error e => ([(.lost, .lost)], .error e)
    | .ok token =>
      let key : Node × After := match token.kind with
        | .value | .flowEntry | .flowSequenceEnd => (omitted token.stop, .ok c.drop)
        | _ => node .flow fuel c
      let close (c : NodeReader) : List (Node × Node) × After :=
        match c.peek with
        | .error e => ([(.lost, .lost)], .error e)
        | .ok _ => ([], .ok c)
      moreEntries close
        (flowValue (fun kind => kind matches .flowEntry | .flowSequenceEnd)
          fun c => node .flow fuel c)
        key

/-- Reads the entries of a mapping in braces that began at a mark. -/
def flowEntries (first : Bool) (since : Mark) :
    (fuel : Nat) → NodeReader → List (Node × Node) × After
  | 0, c => ([(.lost, .lost)], .error c.ending)
  | fuel + 1, c =>
    match c.peek with
    | .error e => ([(.lost, .lost)], .error e)
    | .ok token =>
      match token.kind with
      | .flowMappingEnd => ([], .ok c.drop)
      | _ =>
        match enterItem first .mappingCloseMissing .flowMapping since token c with
        | .error e => ([(.lost, .lost)], .error e)
        | .ok (token, c) =>
          match token.kind with
          | .flowMappingEnd => ([], .ok c.drop)
          | .key =>
            moreEntries (fun c => flowEntries false since fuel c)
              (flowValue (fun kind => kind matches .flowEntry | .flowMappingEnd)
                fun c => node .flow fuel c)
              (unlessKind (fun kind => kind matches .value | .flowEntry | .flowMappingEnd)
                (fun c => node .flow fuel c) c.drop)
          | _ =>
            moreEntries (fun c => flowEntries false since fuel c) noValue (node .flow fuel c)

end

/-- Whether a token stands before or behind the content of a document. -/
def endsDocument (kind : TokenKind) : Bool :=
  kind matches .versionDirective .. | .tagDirective .. | .documentStart | .documentEnd | .streamEnd

/-- A fault at a token, outside all constructs. -/
def bareFault {α : Type} (problem : Problem) (token : Token) : Except Error α :=
  .error (.malformed ⟨problem, token.start, none⟩)

/-- Reads the directives of a document, for at most `fuel` of them. -/
def directives (versionSeen : Bool) (declared : List (String × Tag)) :
    (fuel : Nat) → NodeReader → Except Error NodeReader
  | 0, c => .error c.ending
  | fuel + 1, c => do
    let token ← c.peek
    match token.kind with
    | .versionDirective major minor =>
      if versionSeen then bareFault .versionTwice token
      else if major ≠ 1 ∨ (minor ≠ 1 ∧ minor ≠ 2) then bareFault .versionIncompatible token
      else directives true declared fuel c.drop
    | .tagDirective handle replacement =>
      if (declared.lookup handle).isSome then bareFault .tagTwice token
      else directives versionSeen ((handle, replacement) :: declared) fuel c.drop
    | _ => return { c with handles := declared ++ c.handles }

/-- Reads the directives and the start of a document that has them. -/
def explicitStart (c : NodeReader) : Except Error NodeReader := do
  let c ← directives false [] (c.tokens.length + 1) c
  let token ← c.peek
  if token.kind = .documentStart then return c.drop else bareFault .documentStartMissing token

/-- Whether something other than the end of the text follows a document. -/
def isFollowed (c : NodeReader) : Bool :=
  match (c.tokens.dropWhile fun token => token.kind = .documentEnd).head? with
  | some token => token.kind != .streamEnd
  | none => true

/-- The document whose root is read, with the state behind it. -/
def finish : Node × After → Document
  | (root, .error e) => ⟨some root, some e, false⟩
  | (root, .ok c) =>
    match c.peek with
    | .error e => ⟨some root, some e, false⟩
    | .ok _ => ⟨some root, none, c.isFollowed⟩

/-- The recursion depth that suffices for the tokens. -/
def enough (c : NodeReader) : Nat :=
  4 * c.tokens.length + 8

/-- Reads the first document. -/
def document (c : NodeReader) : Document :=
  match c.peek with
  | .error e => ⟨some .lost, some e, false⟩
  | .ok token =>
    match token.kind with
    | .streamEnd => ⟨none, none, false⟩
    | .versionDirective .. | .tagDirective .. | .documentStart =>
      match c.explicitStart with
      | .error e => ⟨some .lost, some e, false⟩
      | .ok c =>
        match c.peek with
        | .error e => ⟨some .lost, some e, false⟩
        | .ok token =>
          finish <|
            if endsDocument token.kind then (omitted token.start, .ok c)
            else node .block c.enough c
    | _ => finish (node .block c.enough c)

end NodeReader

/-- The handles that every document knows. -/
def standardHandles : List (String × Tag) :=
  [("!", .ofText "!"), ("!!", .ofText "tag:yaml.org,2002:")]

namespace Document

/-- The first document of a list of tokens. -/
def ofTokens (stream : TokenStream) : Document :=
  NodeReader.document {
    tokens := stream.tokens.drop 1
    ending := stream.error.getD .nothing
    handles := standardHandles }

end Document

end Dashboards.Yaml
