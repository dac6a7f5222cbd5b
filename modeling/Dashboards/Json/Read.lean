import Dashboards.Json.Basic
import Dashboards.Json.Fault
import Dashboards.Text.Digits

/-!
# Reading JSON

The reader goes through a text character by character. A fault is placed behind the last character
that was read (`Cursor.fail`) or, where the next character is the problem, behind that one
(`Cursor.failNext`). Collections may be nested less than 128 deep, except in values that nobody asks
for (`ignore`), which are checked only.
-/

namespace Dashboards.Json

/-- The characters from a place on, and the place. -/
structure Cursor where
  rest : List Char
  place : Place := {}
deriving Inhabited

/-- A result with the cursor behind what was read. -/
abbrev Read (α : Type) : Type := α × Cursor

/-- The place behind a character. -/
def Place.after (place : Place) (c : Char) : Place :=
  if c == '\n' then ⟨place.line + 1, 0⟩ else ⟨place.line, place.column + c.utf8Size⟩

/-- The place behind the first byte of a character. -/
def Place.into (place : Place) (c : Char) : Place :=
  if c == '\n' then ⟨place.line + 1, 0⟩ else ⟨place.line, place.column + 1⟩

namespace Cursor

/-- The next character. -/
def peek? (cursor : Cursor) : Option Char := cursor.rest.head?

/-- Goes past the next character. -/
def skip (cursor : Cursor) : Cursor :=
  match cursor.rest with
  | [] => cursor
  | c :: rest => ⟨rest, cursor.place.after c⟩

/-- Goes past a number of characters. -/
def skipMany (cursor : Cursor) : Nat → Cursor
  | 0 => cursor
  | n + 1 => cursor.skip.skipMany n

/-- A fault behind what was read. -/
def fail {α : Type} (cursor : Cursor) (problem : Problem) : Except Fault α :=
  .error ⟨problem, cursor.place⟩

/-- A fault behind the next byte, if there is one. -/
def failNext {α : Type} (cursor : Cursor) (problem : Problem) : Except Fault α :=
  .error ⟨problem, match cursor.rest with
    | [] => cursor.place
    | c :: _ => cursor.place.into c⟩

/-- Whether a character is white space between tokens. -/
def isSpace (c : Char) : Bool :=
  c == ' ' || c == '\n' || c == '\t' || c == '\r'

/-- Goes past characters that satisfy a condition. -/
def skipWhile (p : Char → Bool) : List Char → Place → Cursor
  | [], place => ⟨[], place⟩
  | c :: rest, place =>
    if p c then skipWhile p rest (place.after c) else ⟨c :: rest, place⟩

/-- Goes past white space. -/
def skipSpace (cursor : Cursor) : Cursor :=
  skipWhile isSpace cursor.rest cursor.place

/-- The digits at the cursor and the cursor behind them. -/
def digits (cursor : Cursor) : List Char × Cursor :=
  (cursor.rest.takeWhile Char.isDigit, skipWhile Char.isDigit cursor.rest cursor.place)

end Cursor

/-! ## Words and strings -/

/-- Reads the rest of a word. -/
def readWord : List Char → Cursor → Except Fault Cursor
  | [], cursor => .ok cursor
  | expected :: word, cursor =>
    match cursor.rest with
    | [] => cursor.fail .endInValue
    | c :: _ =>
      if c = expected then readWord word cursor.skip
      else .error ⟨.wordMissing, cursor.place.into c⟩

/-- How many bytes characters take. -/
def byteCount (cs : List Char) : Nat :=
  cs.foldl (fun n c => n + c.utf8Size) 0

/-- The place a number of bytes further on. -/
def Place.bytesOn : (bytes : Nat) → List Char → Place → Place
  | _, [], place => place
  | bytes, c :: rest, place =>
    if bytes = 0 then place
    else if c != '\n' && bytes < c.utf8Size then ⟨place.line, place.column + bytes⟩
    else bytesOn (bytes - c.utf8Size) rest (place.after c)

/-- Reads four hexadecimal digits. -/
def readHex (cursor : Cursor) : Except Fault (Read Nat) :=
  if byteCount cursor.rest < 4 then
    (cursor.skipMany cursor.rest.length).fail .endInString
  else
    match (cursor.rest.take 4).mapM Text.hexDigit? with
    | some digits => .ok (digits.foldl (fun n d => 16 * n + d) 0, cursor.skipMany 4)
    | none => .error ⟨.escapeUnknown, Place.bytesOn 4 cursor.rest cursor.place⟩

/-- The next character is as expected. -/
def expectInEscape (expected : Char) (cursor : Cursor) : Except Fault Cursor :=
  match cursor.rest with
  | [] => cursor.fail .endInString
  | c :: _ =>
    if c = expected then .ok cursor.skip
    else .error ⟨.surrogateEnd, cursor.place.into c⟩

/-- Reads the number of an escaped character. A pair of surrogates is one character. -/
def readEscapedCode (cursor : Cursor) : Except Fault (Read Nat) := do
  let (n, cursor) ← readHex cursor
  if 0xDC00 ≤ n ∧ n ≤ 0xDFFF then cursor.fail .surrogateAlone
  else if 0xD800 ≤ n ∧ n ≤ 0xDBFF then
    let cursor ← expectInEscape '\\' cursor
    let cursor ← expectInEscape 'u' cursor
    let (m, cursor) ← readHex cursor
    if 0xDC00 ≤ m ∧ m ≤ 0xDFFF then
      return ((n - 0xD800) * 1024 + (m - 0xDC00) + 0x10000, cursor)
    else cursor.fail .surrogateAlone
  else return (n, cursor)

/-- The character that a one-letter escape stands for. -/
def escaped? : Char → Option Char
  | '"' => some '"'
  | '\\' => some '\\'
  | '/' => some '/'
  | 'b' => some '\x08'
  | 'f' => some '\x0c'
  | 'n' => some '\n'
  | 'r' => some '\r'
  | 't' => some '\t'
  | _ => none

/-- Reads an escape behind its backslash. -/
def readEscape (cursor : Cursor) : Except Fault (Read Char) :=
  match cursor.rest with
  | [] => cursor.fail .endInString
  | c :: _ =>
    match escaped? c with
    | some d => .ok (d, cursor.skip)
    | none =>
      if c = 'u' then do
        let (code, cursor) ← readEscapedCode cursor.skip
        return (Char.ofNat code, cursor)
      else .error ⟨.escapeUnknown, cursor.place.into c⟩

/-- Reads a string behind its quote, of at most `fuel` characters. -/
def readStringRest : (fuel : Nat) → Cursor → (reversed : List Char) → Except Fault (Read String)
  | 0, cursor, _ => cursor.fail .endInString
  | fuel + 1, cursor, reversed =>
    match cursor.rest with
    | [] => cursor.fail .endInString
    | c :: _ =>
      if c = '"' then .ok (String.ofList reversed.reverse, cursor.skip)
      else if c = '\\' then do
        let (d, cursor) ← readEscape cursor.skip
        readStringRest fuel cursor (d :: reversed)
      else if c.toNat < 0x20 then cursor.skip.fail .controlCharacter
      else readStringRest fuel cursor.skip (c :: reversed)

/-- Reads a string from its quote on. -/
def readString (cursor : Cursor) : Except Fault (Read String) :=
  readStringRest (cursor.rest.length + 1) cursor.skip []

/-! ## Numbers -/

/-- A number as it is read: an integer of 64 bits, or else a floating-point number. -/
inductive Number where
  | int (value : Int)
  | float (value : Binary64)

/-- The digits of an integer as far as they fit into 64 bits, with how many are left over. -/
def significand : List Char → (n : Nat) → Nat × Nat
  | [], n => (n, 0)
  | c :: rest, n =>
    let next := 10 * n + (c.toNat - 48)
    if next < UInt64.size then significand rest next else (n, rest.length + 1)

/-- A power of ten as a number, rounded. -/
def powerOfTen (n : Nat) : Binary64 := Binary64.ofDecimal false 1 n

/-- Applies a power of ten to a number, by one rounded multiplication or by rounded divisions. There
is none if the number becomes too great. -/
def scale? : (fuel : Nat) → Binary64 → (power : Int) → Option Binary64
  | 0, x, _ => some x
  | fuel + 1, x, power =>
    if power.natAbs ≤ 308 then
      let result := if 0 ≤ power then x.mul (powerOfTen power.toNat)
        else x.div (powerOfTen power.natAbs)
      if result.isFinite then some result else none
    else if x.same (Binary64.zero false) then some x
    else if 0 ≤ power then none
    else scale? fuel (x.div (powerOfTen 308)) (power + 308)

/-- The number of a significand, a power of ten and a sign. -/
def assemble (positive : Bool) (n : Nat) (power : Int) (cursor : Cursor) :
    Except Fault (Read Number) :=
  let power := max power (-100000)
  match scale? 400 (Binary64.ofRatio false n 1) power with
  | some (.finite _ m e) => .ok (.float (.finite (!positive) m e), cursor)
  | _ => cursor.fail .numberOutOfRange

/-- Reads the power of ten of a number from its letter on. -/
def readPower (positive : Bool) (n : Nat) (power : Int) (cursor : Cursor) :
    Except Fault (Read Number) :=
  let cursor := cursor.skip
  let (negative, cursor) := match cursor.rest with
    | '+' :: _ => (false, cursor.skip)
    | '-' :: _ => (true, cursor.skip)
    | _ => (false, cursor)
  match cursor.rest with
  | [] => cursor.fail .endInValue
  | c :: _ =>
    if !c.isDigit then .error ⟨.numberMalformed, cursor.place.into c⟩
    else
      let (digits, behind) := cursor.digits
      let value : Nat := digits.foldl (fun (n : Nat) d => 10 * n + (d.toNat - 48)) 0
      if value < Nat.pow 2 31 then
        assemble positive n (if negative then power - value else power + value) behind
      else if n ≠ 0 ∧ !negative then
        let fitting := digits.foldl
          (fun (acc : Nat × Nat) d =>
            if acc.1 < Nat.pow 2 31 then (10 * acc.1 + (d.toNat - 48), acc.2 + 1) else acc) (0, 0)
        (cursor.skipMany fitting.2).fail .numberOutOfRange
      else .ok (.float (Binary64.zero (!positive)), behind)

/-- Reads the fraction of a number from its point on. -/
def readFraction (positive : Bool) (n : Nat) (power : Int) (cursor : Cursor) :
    Except Fault (Read Number) :=
  let (digits, behind) := cursor.skip.digits
  if digits.isEmpty then
    behind.failNext (if behind.rest.isEmpty then .endInValue else .numberMalformed)
  else
    let (n, left) := significand digits n
    let power := power - ((digits.length : Int) - left)
    match behind.rest with
    | c :: _ =>
      if c = 'e' ∨ c = 'E' then readPower positive n power behind
      else assemble positive n power behind
    | [] => assemble positive n power behind

/-- Reads a number from its first digit on. -/
def readNumber (positive : Bool) (cursor : Cursor) : Except Fault (Read Number) :=
  match cursor.rest with
  | [] => cursor.fail .endInValue
  | c :: _ =>
    if !c.isDigit then .error ⟨.numberMalformed, cursor.place.into c⟩
    else
      let (digits, behind) := cursor.digits
      if c = '0' ∧ 1 < digits.length then cursor.skip.failNext .numberMalformed
      else
        let (n, left) := significand digits 0
        let rest := behind.rest.head?
        if rest = some '.' then readFraction positive n (left : Int) behind
        else if rest = some 'e' ∨ rest = some 'E' then readPower positive n (left : Int) behind
        else if 0 < left then assemble positive n (left : Int) behind
        else if positive then .ok (.int n, behind)
        else if 0 < n ∧ n ≤ Nat.pow 2 63 then .ok (.int (-(n : Int)), behind)
        else assemble positive n 0 behind

/-! ## Collections -/

/-- Goes to the next element of an array, or finds none left. -/
def nextItem (first : Bool) (cursor : Cursor) : Except Fault (Read Bool) :=
  let cursor := cursor.skipSpace
  match cursor.peek? with
  | none => cursor.failNext .endInArray
  | some ']' => .ok (false, cursor)
  | some c =>
    if first then .ok (true, cursor)
    else if c = ',' then
      let cursor := cursor.skip.skipSpace
      match cursor.peek? with
      | some ']' => cursor.failNext .commaTrailing
      | some _ => .ok (true, cursor)
      | none => cursor.failNext .endInValue
    else cursor.failNext .arrayCloseMissing

/-- Goes to the next key of an object, or finds none left. -/
def nextKey (first : Bool) (cursor : Cursor) : Except Fault (Read Bool) :=
  let cursor := cursor.skipSpace
  match cursor.peek? with
  | none => cursor.failNext .endInObject
  | some '\x7d' => .ok (false, cursor)
  | some c =>
    if first then
      if c = '"' then .ok (true, cursor) else cursor.failNext .keyNoString
    else if c = ',' then
      let cursor := cursor.skip.skipSpace
      match cursor.peek? with
      | some '"' => .ok (true, cursor)
      | some '\x7d' => cursor.failNext .commaTrailing
      | some _ => cursor.failNext .keyNoString
      | none => cursor.failNext .endInValue
    else cursor.failNext .objectCloseMissing

/-- Reads the colon behind a key. -/
def readColon (cursor : Cursor) : Except Fault Cursor :=
  let cursor := cursor.skipSpace
  match cursor.peek? with
  | some ':' => .ok cursor.skip
  | some _ => cursor.failNext .colonMissing
  | none => cursor.failNext .endInObject

/-- How deep collections may be nested, and one more. -/
def depthLimit : Nat := 128

/-- Enters a collection, if that is not too deep. -/
def enter {α : Type} (depth : Nat) (cursor : Cursor)
    (read : Nat → Cursor → Except Fault (Read α)) : Except Fault (Read α) :=
  match depth with
  | 0 | 1 => cursor.failNext .nestedTooDeep
  | depth + 1 => read depth cursor.skip

/-- Goes to the next value. -/
def toValue {α : Type} (cursor : Cursor) (read : Char → Cursor → Except Fault (Read α)) :
    Except Fault (Read α) :=
  let cursor := cursor.skipSpace
  match cursor.peek? with
  | none => cursor.failNext .endInValue
  | some c => read c cursor

/-- Reads a value that begins with a character and is no collection. -/
def readLeaf (c : Char) (cursor : Cursor) : Except Fault (Read Json) :=
  match c with
  | 'n' => do return (.null, ← readWord ['u', 'l', 'l'] cursor.skip)
  | 't' => do return (.bool true, ← readWord ['r', 'u', 'e'] cursor.skip)
  | 'f' => do return (.bool false, ← readWord ['a', 'l', 's', 'e'] cursor.skip)
  | '"' => do
    let (text, cursor) ← readString cursor
    return (.string text, cursor)
  | c =>
    if c = '-' ∨ c.isDigit then do
      let (number, cursor) ← readNumber (c ≠ '-') (if c = '-' then cursor.skip else cursor)
      match number with
      | .int n => return (.int n, cursor)
      | .float x => return (.float x, cursor)
    else cursor.failNext .valueMissing

/-- Puts an entry into an object: a repeated key keeps its place and gets the last value. -/
def putEntry (key : String) (value : Json) : List (String × Json) → List (String × Json)
  | [] => [(key, value)]
  | entry :: rest =>
    if entry.1 = key then (key, value) :: rest else entry :: putEntry key value rest

mutual

/-- Reads a value, for at most `fuel` values. -/
def readValue : (fuel depth : Nat) → Cursor → Except Fault (Read Json)
  | 0, _, cursor => cursor.fail .endInValue
  | fuel + 1, depth, cursor =>
    toValue cursor fun c cursor =>
      match c with
      | '[' => enter depth cursor fun depth cursor => do
        let (items, cursor) ← readItems fuel depth true cursor
        return (.array items, cursor)
      | '\x7b' => enter depth cursor fun depth cursor => do
        let (entries, cursor) ← readEntries fuel depth true cursor []
        return (.object entries, cursor)
      | c => readLeaf c cursor

/-- Reads the elements of an array and its end. -/
def readItems : (fuel depth : Nat) → (first : Bool) → Cursor → Except Fault (Read (List Json))
  | 0, _, _, cursor => cursor.fail .endInArray
  | fuel + 1, depth, first, cursor => do
    let (more, cursor) ← nextItem first cursor
    if more then
      let (item, cursor) ← readValue fuel depth cursor
      let (items, cursor) ← readItems fuel depth false cursor
      return (item :: items, cursor)
    else return ([], cursor.skip)

/-- Reads the entries of an object and its end. -/
def readEntries : (fuel depth : Nat) → (first : Bool) → Cursor → List (String × Json) →
    Except Fault (Read (List (String × Json)))
  | 0, _, _, cursor, _ => cursor.fail .endInObject
  | fuel + 1, depth, first, cursor, entries => do
    let (more, cursor) ← nextKey first cursor
    if more then
      let (key, cursor) ← readString cursor
      let cursor ← readColon cursor
      let (value, cursor) ← readValue fuel depth cursor
      readEntries fuel depth false cursor (putEntry key value entries)
    else return (entries, cursor.skip)

end

/-- Nothing but white space is left. -/
def finish {α : Type} (result : α × Cursor) : Except Fault α :=
  let cursor := result.2.skipSpace
  if cursor.rest.isEmpty then .ok result.1 else cursor.failNext .charactersTrailing

/-- The value that a text is. -/
def ofText (text : String) : Except Fault Json := do
  finish (← readValue (2 * text.length + 2) depthLimit ⟨text.toList, {}⟩)

/-! ## Values that nobody asks for -/

/-- Checks a string behind its quote. -/
def ignoreString : (fuel : Nat) → Cursor → Except Fault Cursor
  | 0, cursor => cursor.fail .endInString
  | fuel + 1, cursor =>
    match cursor.rest with
    | [] => cursor.fail .endInString
    | c :: _ =>
      if c = '"' then .ok cursor.skip
      else if c = '\\' then
        let cursor := cursor.skip
        match cursor.rest with
        | [] => cursor.fail .endInString
        | d :: _ =>
          if (escaped? d).isSome then ignoreString fuel cursor.skip
          else if d = 'u' then do
            let (_, cursor) ← readHex cursor.skip
            ignoreString fuel cursor
          else .error ⟨.escapeUnknown, cursor.place.into d⟩
      else if c.toNat < 0x20 then cursor.fail .controlCharacter
      else ignoreString fuel cursor.skip

/-- The place behind the next byte, or here at the end. -/
def behindNext (cursor : Cursor) : Place :=
  match cursor.rest with
  | [] => cursor.place
  | c :: _ => cursor.place.into c

/-- Checks the power of ten of a number. -/
def ignorePower (cursor : Cursor) : Except Fault Cursor :=
  let cursor := cursor.skip
  let cursor := if cursor.peek? = some '+' ∨ cursor.peek? = some '-' then cursor.skip else cursor
  let (digits, behind) := cursor.digits
  if digits.isEmpty then .error ⟨.numberMalformed, behindNext cursor⟩ else .ok behind

/-- Checks a number from its first digit on. -/
def ignoreNumber (cursor : Cursor) : Except Fault Cursor := do
  let (digits, behind) := cursor.digits
  if digits.isEmpty then throw ⟨.numberMalformed, behindNext cursor⟩
  if digits.head? = some '0' ∧ 1 < digits.length then cursor.skip.failNext .numberMalformed
  else if behind.peek? = some '.' then
    let (fraction, behind) := behind.skip.digits
    if fraction.isEmpty then behind.failNext .numberMalformed
    else if behind.peek? = some 'e' ∨ behind.peek? = some 'E' then ignorePower behind
    else return behind
  else if behind.peek? = some 'e' ∨ behind.peek? = some 'E' then ignorePower behind
  else return behind

/-- Checks a value that is no collection. -/
def ignoreLeaf (c : Char) (cursor : Cursor) : Except Fault Cursor :=
  match c with
  | 'n' => readWord ['u', 'l', 'l'] cursor.skip
  | 't' => readWord ['r', 'u', 'e'] cursor.skip
  | 'f' => readWord ['a', 'l', 's', 'e'] cursor.skip
  | '"' => ignoreString (cursor.rest.length + 1) cursor.skip
  | c =>
    if c = '-' then ignoreNumber cursor.skip
    else if c.isDigit then ignoreNumber cursor
    else cursor.failNext .valueMissing

/-- Checks the key of an object with its colon. -/
def ignoreKey (cursor : Cursor) : Except Fault Cursor := do
  let cursor := cursor.skipSpace
  match cursor.peek? with
  | some '"' =>
    let cursor ← ignoreString (cursor.rest.length + 1) cursor.skip
    readColon cursor
  | some _ => cursor.failNext .keyNoString
  | none => cursor.failNext .endInObject

/-- An open collection: an array, or else an object. -/
inductive Frame where
  | array | object
deriving DecidableEq

/-- What a check goes on with: a value, the end of a value within open collections, or nothing. -/
inductive Pending where
  | value
  /-- Behind a value, or behind the opening bracket if `fresh`. -/
  | close (fresh : Bool)

/-- Checks what is pending within open collections, innermost first, for at most `fuel` steps. -/
def ignoreSteps : (fuel : Nat) → Pending → List Frame → Cursor → Except Fault Cursor
  | 0, _, _, cursor => .ok cursor
  | fuel + 1, .value, frames, cursor =>
    let cursor := cursor.skipSpace
    match cursor.peek? with
    | none => cursor.failNext .endInValue
    | some '[' => ignoreSteps fuel (.close true) (.array :: frames) cursor.skip
    | some '\x7b' => ignoreSteps fuel (.close true) (.object :: frames) cursor.skip
    | some c => do
      let cursor ← ignoreLeaf c cursor
      ignoreSteps fuel (.close false) frames cursor
  | _ + 1, .close _, [], cursor => .ok cursor
  | fuel + 1, .close fresh, frame :: frames, cursor =>
    let cursor := cursor.skipSpace
    let enterNext (cursor : Cursor) : Except Fault Cursor := do
      let cursor ← if frame = .object then ignoreKey cursor else pure cursor
      ignoreSteps fuel .value (frame :: frames) cursor
    match cursor.peek?, frame with
    | none, .array => cursor.failNext .endInArray
    | none, .object => cursor.failNext .endInObject
    | some ']', .array => ignoreSteps fuel (.close false) frames cursor.skip
    | some '\x7d', .object => ignoreSteps fuel (.close false) frames cursor.skip
    | some c, _ =>
      if fresh then enterNext cursor
      else if c = ',' then enterNext cursor.skip
      else
        cursor.failNext (if frame = .array then .arrayCloseMissing else .objectCloseMissing)

/-- Checks a value. -/
def ignore (cursor : Cursor) : Except Fault Cursor :=
  ignoreSteps (2 * cursor.rest.length + 4) .value [] cursor

end Dashboards.Json
