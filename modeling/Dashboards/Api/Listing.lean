import Dashboards.Json.Read

/-!
# Listings of dashboards

The interface answers a lookup with a listing: an object whose field `dashboards` has a summary of
each dashboard, with its number and its title among other fields. Records may also be given as
arrays of their fields in order. Fields that nobody asks for are checked and left out.

A reader that finds a record incomplete, or a field twice, tries to close the record first, so the
fault is placed behind the closing bracket if that is there.
-/

namespace Dashboards.Api

open Json (Cursor Fault Read)

/-- What a listing says of a dashboard. -/
structure Summary where
  id : Nat
  title : String
deriving DecidableEq, Inhabited

namespace Listing

/-! ## Typed values -/

/-- What a value that is no collection is. -/
def foundOf : Json → Json.Found
  | .null => .null
  | .bool value => .bool value
  | .int value => .int value
  | .float value => .float value
  | .string value => .string value
  | .array _ => .array
  | .object _ => .object

/-- Fails because the value at the cursor is of another type than expected. A value that is no
collection is read first. -/
def refuse {α : Type} (expected : String) (c : Char) (cursor : Cursor) : Except Fault α :=
  match c with
  | '[' => cursor.fail (.wrongType .array expected)
  | '\x7b' => cursor.fail (.wrongType .object expected)
  | c => do
    let (value, cursor) ← Json.readLeaf c cursor
    cursor.fail (.wrongType (foundOf value) expected)

/-- Reads an unsigned integer of 64 bits. -/
def readUnsigned (cursor : Cursor) : Except Fault (Read Nat) :=
  Json.toValue cursor fun c cursor =>
    if c = '-' ∨ c.isDigit then do
      let (value, behind) ← Json.readLeaf c cursor
      match value with
      | .int (.ofNat n) => return (n, behind)
      | .int n => behind.fail (.wrongValue (.int n) "u64")
      | value => behind.fail (.wrongType (foundOf value) "u64")
    else refuse "u64" c cursor

/-- Reads a text. -/
def readText (cursor : Cursor) : Except Fault (Read String) :=
  Json.toValue cursor fun c cursor =>
    if c = '"' then Json.readString cursor else refuse "a string" c cursor

/-- The cursor behind white space and a closing bracket, if that is there. -/
def close (bracket : Char) (cursor : Cursor) : Cursor :=
  let cursor := cursor.skipSpace
  if cursor.peek? = some bracket then cursor.skip else cursor

/-- The end of an array whose elements are all read. -/
def closeArray (cursor : Cursor) : Except Fault Cursor :=
  let cursor := cursor.skipSpace
  match cursor.peek? with
  | some ']' => .ok cursor.skip
  | some ',' =>
    let cursor := cursor.skip.skipSpace
    if cursor.peek? = some ']' then cursor.failNext .commaTrailing
    else cursor.failNext .charactersTrailing
  | some _ => cursor.failNext .charactersTrailing
  | none => cursor.failNext .endInArray

/-- Reads the elements of an array and its end. -/
def readItems {α : Type} (read : Cursor → Except Fault (Read α)) :
    (fuel : Nat) → (first : Bool) → Cursor → Except Fault (Read (List α))
  | 0, _, cursor => cursor.fail .endInArray
  | fuel + 1, first, cursor => do
    let (more, cursor) ← Json.nextItem first cursor
    if more then
      let (item, cursor) ← read cursor
      let (items, cursor) ← readItems read fuel false cursor
      return (item :: items, cursor)
    else return ([], cursor.skip)

/-- Reads the entries of an object into a record, each by its key, and the end of the object. -/
def readEntries {ρ : Type} (field : String → ρ → Cursor → Except Fault (Read ρ)) :
    (fuel : Nat) → (first : Bool) → Cursor → ρ → Except Fault (Read ρ)
  | 0, _, cursor, _ => cursor.fail .endInObject
  | fuel + 1, first, cursor, record => do
    let (more, cursor) ← Json.nextKey first cursor
    if more then
      let (key, cursor) ← Json.readString cursor
      let (record, cursor) ← field key record cursor
      readEntries field fuel false cursor record
    else return (record, cursor.skip)

/-- Reads the value of a field that is not read yet. -/
def readField {α : Type} (name : String) (old : Option α)
    (read : Cursor → Except Fault (Read α)) (cursor : Cursor) : Except Fault (Read (Option α)) := do
  if old.isSome then (close '\x7d' cursor).fail (.duplicateField name)
  else
    let (value, cursor) ← read (← Json.readColon cursor)
    return (some value, cursor)

/-- Checks the value of a field that nobody asks for. -/
def ignoreField {ρ : Type} (record : ρ) (cursor : Cursor) : Except Fault (Read ρ) := do
  return (record, ← Json.ignore (← Json.readColon cursor))

/-! ## Summaries -/

/-- The fields of a summary that are read so far. -/
structure SummaryFields where
  id : Option Nat := none
  title : Option String := none

/-- Reads a field of a summary. -/
def SummaryFields.readField (key : String) (fields : SummaryFields) (cursor : Cursor) :
    Except Fault (Read SummaryFields) := do
  if key = "id" then
    let (id, cursor) ← Listing.readField key fields.id readUnsigned cursor
    return ({ fields with id }, cursor)
  else if key = "title" then
    let (title, cursor) ← Listing.readField key fields.title readText cursor
    return ({ fields with title }, cursor)
  else ignoreField fields cursor

/-- The summary with these fields; the cursor is behind the object. -/
def SummaryFields.finish (fields : SummaryFields) (cursor : Cursor) : Except Fault Summary :=
  match fields.id, fields.title with
  | some id, some title => .ok ⟨id, title⟩
  | none, _ => cursor.fail (.missingField "id")
  | some _, none => cursor.fail (.missingField "title")

/-- Reads the summary that an array is, behind its bracket. -/
def readSummaryItems (cursor : Cursor) : Except Fault (Read Summary) := do
  let tooShort (length : Nat) (cursor : Cursor) : Except Fault (Read Summary) :=
    cursor.skip.fail (.wrongLength length "struct DashboardSummary with 2 elements")
  let (more, cursor) ← Json.nextItem true cursor
  if !more then tooShort 0 cursor
  else
    let (id, cursor) ← readUnsigned cursor
    let (more, cursor) ← Json.nextItem false cursor
    if !more then tooShort 1 cursor
    else
      let (title, cursor) ← readText cursor
      return (⟨id, title⟩, ← closeArray cursor)

/-- Reads a summary. -/
def readSummary (cursor : Cursor) : Except Fault (Read Summary) :=
  Json.toValue cursor fun c cursor =>
    match c with
    | '[' => readSummaryItems cursor.skip
    | '\x7b' => do
      let (fields, cursor) ←
        readEntries SummaryFields.readField (cursor.rest.length + 1) true cursor.skip {}
      return (← fields.finish cursor, cursor)
    | c => refuse "struct DashboardSummary" c cursor

/-! ## Listings -/

/-- Reads summaries. -/
def readSummaries (cursor : Cursor) : Except Fault (Read (List Summary)) :=
  Json.toValue cursor fun c cursor =>
    if c = '[' then readItems readSummary (cursor.rest.length + 1) true cursor.skip
    else refuse "a sequence" c cursor

/-- Reads a field of a listing. -/
def readListingField (key : String) (summaries : Option (List Summary)) (cursor : Cursor) :
    Except Fault (Read (Option (List Summary))) :=
  if key = "dashboards" then readField key summaries readSummaries cursor
  else ignoreField summaries cursor

/-- Reads the listing that an array is, behind its bracket. -/
def readListingItems (cursor : Cursor) : Except Fault (Read (List Summary)) := do
  let (more, cursor) ← Json.nextItem true cursor
  if more then
    let (summaries, cursor) ← readSummaries cursor
    return (summaries, ← closeArray cursor)
  else return ([], cursor.skip)

/-- Reads a listing. One without the field `dashboards` is empty. -/
def read (cursor : Cursor) : Except Fault (Read (List Summary)) :=
  Json.toValue cursor fun c cursor =>
    match c with
    | '[' => readListingItems cursor.skip
    | '\x7b' => do
      let (summaries, cursor) ←
        readEntries readListingField (cursor.rest.length + 1) true cursor.skip none
      return (summaries.getD [], cursor)
    | c => refuse "struct DashboardList" c cursor

/-- The summaries of the listing that a text is. -/
def ofText (text : String) : Except Fault (List Summary) := do
  Json.finish (← read ⟨text.toList, {}⟩)

end Listing

end Dashboards.Api
