import Dashboards.Table
import Dashboards.Yaml.Document
import Dashboards.Yaml.Value

/-!
# Reading typed data from nodes

A decoder reads a node as data of a type. It knows how deep it may still go, the path of the node,
and what the document says about aliases; it counts the aliases that it follows, and more than a
hundred for each event of the document are refused. A decoder that wants another type of node fails
with a mismatch, which gets the place of the innermost node whose decoder knows its own mark.

Records are described by lists of fields (`RecordField`), each with its spellings and a decoder that
reads the value into the record.
-/

namespace Dashboards.Yaml

/-- What the document says that is not in a node itself. -/
structure Surroundings where
  /-- The anchored nodes, later ones first. -/
  anchored : List (Nat × Node)
  /-- How many aliases may be followed. -/
  limit : Nat
  /-- What is wrong where the tree is cut off. -/
  fault : Error

/-- An action that reads nodes: it knows the surroundings, counts the aliases that are followed, and
may fail. -/
def Reading (α : Type) : Type :=
  Surroundings → Nat → Except Error (α × Nat)

namespace Reading

variable {α β : Type}

/-- The action that does nothing but give a result. -/
def pure (a : α) : Reading α := fun _ followed => .ok (a, followed)

/-- One action after the other. -/
def bind (x : Reading α) (f : α → Reading β) : Reading β := fun around followed =>
  match x around followed with
  | .ok (a, followed) => f a around followed
  | .error e => .error e

instance : Monad Reading where
  pure := pure
  bind := bind

/-- Fails. -/
def fail (error : Error) : Reading α := fun _ _ => .error error

/-- Fails with a mismatch that has no place yet. -/
def mismatch (reason : Mismatch) : Reading α := fail (.mismatch reason none)

/-- Gives the mismatches of an action a place. -/
def placed (mark : Mark) (path : Path) (x : Reading α) : Reading α := fun around followed =>
  match x around followed with
  | .ok result => .ok result
  | .error e => .error (e.placeAt mark path)

/-- Fails with what cut the tree off. -/
def cutOff : Reading α := fun around _ => .error around.fault

/-- The node that a number stands for. -/
def target (number : Nat) : Reading Node := fun around followed =>
  if around.limit < followed + 1 then .error .repetition
  else .ok ((around.anchored.lookup number).getD .lost, followed + 1)

end Reading

/-- Reads a node as data of a type, no deeper than a number of collections within each other; the
path leads to the node. -/
abbrev Decoder (α : Type) : Type :=
  (depth : Nat) → Path → Node → Reading α

/-- The node itself, or the node that it stands for if it is an alias, with its path. -/
def follow (path : Path) : Node → Reading (Path × Node)
  | .reference _ number => do
    let node ← Reading.target number
    return (.target :: path, node)
  | node => return (path, node)

/-- What a scalar is found to be where a decoder wants something else. -/
def foundScalar (expected : String) (tag : Option Tag) (style : ScalarStyle) (text : String) :
    Mismatch :=
  match Scalar.resolve tag false style text with
  | .error forced => .wrongValue (.text text) forced.expected
  | .ok .null => .wrongType .unit expected
  | .ok (.bool b) => .wrongType (.bool b) expected
  | .ok (.int n) => .wrongType (.int n) expected
  | .ok .minusZero => .wrongType (.int 0) expected
  | .ok (.wideInt n) => .wrongType (.wideInt n) expected
  | .ok (.float x) => .wrongType (.float x) expected
  | .ok (.text s) => .wrongType (.text s) expected

/-- Fails because a node, which is no alias, is not what is expected. -/
def refuse {α : Type} (expected : String) (path : Path) : Node → Reading α
  | .scalar mark _ tag style text =>
    Reading.placed mark path (Reading.mismatch (foundScalar expected tag style text))
  | .sequence mark .. =>
    Reading.placed mark path (Reading.mismatch (.wrongType .sequence expected))
  | .mapping mark .. =>
    Reading.placed mark path (Reading.mismatch (.wrongType .mapping expected))
  | .reference .. | .lost => Reading.cutOff

namespace Decoder

variable {α ρ : Type}

/-- Reads a scalar by its own text, whatever its type. -/
def ownText (expected : String) : Decoder String := fun _ path node => do
  let (path, node) ← follow path node
  match node with
  | .scalar _ _ _ _ text => return text
  | node => refuse expected path node

/-- Reads a text. -/
def text : Decoder String := ownText "a string"

/-- Whether a scalar stands for an absent value: an unquoted null, or an omitted node. A tag that
forces null has to have such a text. -/
def isAbsent (tag : Option Tag) (style : ScalarStyle) (text : String) : Reading Bool :=
  if style ≠ .plain then return false
  else
    match tag with
    | none => return text.isEmpty || Scalar.isNullWord text.toList
    | some tag =>
      if Scalar.Forced.ofTag? tag = some .null then
        if Scalar.isNullWord text.toList then return true
        else Reading.mismatch (.wrongValue (.text text) Scalar.Forced.null.expected)
      else return false

/-- Reads a value that may be absent. -/
def optional (decode : Decoder α) : Decoder (Option α) := fun depth path node => do
  let (path, node) ← follow path node
  match node with
  | .scalar _ _ tag style text =>
    if ← isAbsent tag style text then return none
    else return some (← decode depth path node)
  | .lost => Reading.cutOff
  | node => return some (← decode depth path node)

/-- Reads a value, an absent one as the default. -/
def orDefault [Inhabited α] (decode : Decoder α) : Decoder α := fun depth path node => do
  return (← optional decode depth path node).getD default

/-- Reads an unsigned integer of 64 bits. Only a plain scalar is a number, or a literal one whose
tag says so. -/
def unsigned64 (expected : String) : Decoder Nat := fun _ path node => do
  let (path, node) ← follow path node
  match node with
  | .scalar _ _ tag style text =>
    let isNumber := style = .plain ∨
      style = .literal ∧ tag.bind Scalar.Forced.ofTag? = some .int
    match if isNumber then Scalar.natural? (Scalar.unsigned text.toList) else none with
    | some n => if n < UInt64.size then return n else refuse expected path node
    | none => refuse expected path node
  | node => refuse expected path node

/-- Reads an unsigned integer of 32 bits. -/
def unsigned32 : Decoder Nat := fun depth path node => do
  let (path, node) ← follow path node
  let n ← unsigned64 "u32" depth path node
  if n < UInt32.size then return n
  else
    match node with
    | .scalar mark .. =>
      Reading.placed mark path (Reading.mismatch (.wrongValue (.int n) "u32"))
    | _ => Reading.mismatch (.wrongValue (.int n) "u32")

/-- Whether a scalar may stand for an empty collection: nothing is written. -/
def isOmitted : Node → Bool
  | .scalar _ _ _ style text => style = .plain && text.isEmpty
  | _ => false

/-- Reads the elements one after the other, the first one at a position. -/
def items (decode : Decoder α) (depth : Nat) (path : Path) : (position : Nat) → List Node →
    Reading (List α)
  | _, [] => return []
  | _, .lost :: _ => Reading.cutOff
  | position, node :: rest => do
    let first ← decode depth (.index position :: path) node
    let others ← items decode depth path (position + 1) rest
    return first :: others

/-- Reads a sequence. -/
def sequence (decode : Decoder α) : Decoder (List α) := fun depth path node => do
  let (path, node) ← follow path node
  match node with
  | .sequence mark _ _ nodes =>
    match depth with
    | 0 => Reading.fail (.depth mark)
    | depth + 1 => Reading.placed mark path (items decode depth path 0 nodes)
  | node => if isOmitted node then return [] else refuse "a sequence" path node

/-- The step of the path from a mapping to the value of a key. -/
def stepTo : Node → Step
  | .scalar _ _ _ _ text => .key text
  | _ => .unknown

/-- Goes through the entries of a mapping in order. -/
def foldEntries (readKey : ρ → Decoder α) (readValue : ρ → α → Decoder ρ) (depth : Nat)
    (path : Path) : List (Node × Node) → ρ → Reading ρ
  | [], record => return record
  | (.lost, _) :: _, _ => Reading.cutOff
  | (key, value) :: rest, record => do
    let name ← readKey record depth path key
    let record ← readValue record name depth (stepTo key :: path) value
    foldEntries readKey readValue depth path rest record

/-- Reads a mapping entry by entry into a record that grows. -/
def mapping (expected : String) (start : ρ) (readKey : ρ → Decoder α)
    (readValue : ρ → α → Decoder ρ) : Decoder ρ := fun depth path node => do
  let (path, node) ← follow path node
  match node with
  | .mapping mark _ _ entries =>
    match depth with
    | 0 => Reading.fail (.depth mark)
    | depth + 1 =>
      Reading.placed mark path (foldEntries readKey readValue depth path entries start)
  | node => if isOmitted node then return start else refuse expected path node

/-- Reads a mapping from names. A name that is repeated keeps its place and gets the last value. -/
def table (decode : Decoder α) : Decoder (Table α) :=
  mapping "a map" Table.empty (fun _ => text) fun table name depth path node => do
    return table.insert name (← decode depth path node)

end Decoder

/-- A field of a record: the spellings of its name in alphabetical order, the one that messages use,
and how its value is read into the record. -/
structure RecordField (ρ : Type) where
  name : String
  spellings : List String
  read : ρ → Decoder ρ

namespace RecordField

variable {α ρ : Type}

/-- A field with one spelling whose value is put into the record. -/
def plain (name : String) (decode : Decoder α) (put : ρ → α → ρ) : RecordField ρ :=
  ⟨name, [name], fun record depth path node => do return put record (← decode depth path node)⟩

/-- The field with some more spellings of its name. -/
def spelled (field : RecordField ρ) (spellings : List String) : RecordField ρ :=
  { field with spellings }

/-- The field with a spelling. -/
def find? (fields : List (RecordField ρ)) (spelling : String) : Option (RecordField ρ) :=
  fields.find? fun field => field.spellings.contains spelling

/-- The spellings of all fields. -/
def allSpellings (fields : List (RecordField ρ)) : List String :=
  fields.flatMap (·.spellings)

end RecordField

/-- A record in the making, with the names of the fields that are read. -/
structure Partial (ρ : Type) where
  record : ρ
  seen : List String := []

namespace Decoder

variable {ρ : Type}

/-- Reads the key of a record: a spelling of one of the fields, none of which is read twice. -/
def fieldKey (fields : List (RecordField ρ)) (part : Partial ρ) : Decoder (RecordField ρ) :=
  fun depth path node => do
    let (path, node) ← follow path node
    let spelling ← ownText "field identifier" depth path node
    match RecordField.find? fields spelling with
    | none =>
      let reason := Mismatch.unknownField spelling (RecordField.allSpellings fields)
      match node with
      | .scalar mark .. => Reading.placed mark path (Reading.mismatch reason)
      | _ => Reading.mismatch reason
    | some field =>
      if part.seen.contains field.name then Reading.mismatch (.duplicateField field.name)
      else return field

/-- Reads the value of a field into the record. -/
def fieldValue (part : Partial ρ) (field : RecordField ρ) : Decoder (Partial ρ) :=
  fun depth path node => do
    return ⟨← field.read part.record depth path node, field.name :: part.seen⟩

/-- Reads a mapping that may have these fields and no others. -/
def record (expected : String) (fields : List (RecordField ρ)) (start : ρ) : Decoder ρ :=
  fun depth path node => do
    let part ← mapping expected ⟨start, []⟩ (fieldKey fields) fieldValue depth path node
    return part.record

end Decoder

/-! ## Raw values -/

/-- How raw values are read. -/
structure RawMode where
  /-- Whether a local tag is kept; else it is refused. -/
  tags : Bool
  /-- Whether a mapping may have a key twice. -/
  repeats : Bool
  /-- What is asked for, in messages. -/
  expected : String
  /-- What a zero with a minus sign is. -/
  minusZero : Value

/-- Raw values as they stand in a document. -/
def RawMode.document : RawMode := ⟨true, false, "any YAML value", .int 0⟩

/-- Raw values from which one of several types is chosen afterwards. A zero with a minus sign is
signed then and does not count as an integer that could be a position. -/
def RawMode.buffer : RawMode := ⟨false, true, "any value", .float (Binary64.zero true)⟩

/-- The raw value of a typed scalar. An integer of more than 64 bits is none. -/
def rawScalar (mode : RawMode) : Scalar → Reading Value
  | .null => return .null
  | .bool b => return .bool b
  | .int n => return .int n
  | .minusZero => return mode.minusZero
  | .wideInt n => Reading.mismatch (.wrongType (.wideInt n) mode.expected)
  | .float x => return .float x
  | .text s => return .text s

/-- Reads the elements of a raw sequence. -/
def rawItems (read : Path → Node → Reading Value) (path : Path) :
    (position : Nat) → List Node → Reading (List Value)
  | _, [] => return []
  | _, .lost :: _ => Reading.cutOff
  | position, node :: rest => do
    let first ← read (.index position :: path) node
    let others ← rawItems read path (position + 1) rest
    return first :: others

/-- Reads the entries of a raw mapping behind those that are read, last one first. -/
def rawEntries (mode : RawMode) (read : Path → Node → Reading Value) (path : Path) :
    List (Node × Node) → List (Value × Value) → Reading (List (Value × Value))
  | [], reversed => return reversed.reverse
  | (.lost, _) :: _, _ => Reading.cutOff
  | (key, value) :: rest, reversed => do
    let k ← read path key
    match if mode.repeats then none else reversed.find? fun entry => k.same entry.1 with
    | some entry => Reading.mismatch (.duplicateEntry entry.1.repeatedKey)
    | none =>
      let v ← read (Decoder.stepTo key :: path) value
      rawEntries mode read path rest ((k, v) :: reversed)

/-- A value with its local tag, which `mode` may refuse. -/
def rawTagged (mode : RawMode) (tag : Option Tag) (value : Bool → Reading Value) :
    Reading Value :=
  match tag.bind Scalar.localTag? with
  | none => value false
  | some name =>
    if mode.tags then do return .tagged name (← value true)
    else Reading.mismatch .taggedReference

/-- Reads a raw value. -/
def rawValue (mode : RawMode) : Decoder Value := fun depth path node => do
  let (path, node) ← follow path node
  match node with
  | .scalar mark _ tag style text =>
    Reading.placed mark path <| rawTagged mode tag fun applied =>
      match Scalar.resolve tag applied style text with
      | .ok scalar => rawScalar mode scalar
      | .error forced => Reading.mismatch (.wrongValue (.text text) forced.expected)
  | .sequence mark _ tag nodes =>
    Reading.placed mark path <| rawTagged mode tag fun _ =>
      match depth with
      | 0 => Reading.fail (.depth mark)
      | depth + 1 => do return .sequence (← rawItems (rawValue mode depth) path 0 nodes)
  | .mapping mark _ tag entries =>
    Reading.placed mark path <| rawTagged mode tag fun _ =>
      match depth with
      | 0 => Reading.fail (.depth mark)
      | depth + 1 => do return .mapping (← rawEntries mode (rawValue mode depth) path entries [])
  | .reference .. | .lost => Reading.cutOff

/-! ## Documents -/

/-- How deep collections may be nested. -/
def depthLimit : Nat := 128

namespace Document

/-- What decoders need to know of a document. -/
def surroundings (document : Document) : Surroundings :=
  let root := document.root.getD .lost
  { anchored := root.anchored.reverse
    limit := 100 * (root.size - root.openEnds)
    fault := document.fault.getD .nothing }

/-- Reads the root of a document, given what an empty text stands for. The fault of a document
counts even if it is behind the root, and a second document is refused. -/
def read {α : Type} (document : Document) (decode : Decoder α) (empty : Except Error α) :
    Except Error α :=
  match document.root with
  | none => empty
  | some root => do
    let (result, _) ← decode depthLimit [] root document.surroundings 0
    match document.fault with
    | some fault => throw fault
    | none => if document.followed then throw .severalDocuments else return result

end Document

end Dashboards.Yaml
