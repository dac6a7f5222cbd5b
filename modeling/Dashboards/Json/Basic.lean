import Dashboards.Number.Layout

/-!
# JSON values and their text

The interface speaks JSON. A value is written compactly, or prettily with every element on a line of
its own, indented by two spaces for each level.
-/

namespace Dashboards

/-- A JSON value. The entries of an object are in the order in which they are written. -/
inductive Json where
  | null
  | bool (value : Bool)
  | int (value : Int)
  | float (value : Binary64)
  | string (value : String)
  | array (items : List Json)
  | object (entries : List (String × Json))
deriving Inhabited

namespace Json

/-- A natural number as a value. -/
def nat (n : Nat) : Json := .int n

/-- A text or null. -/
def optionalString : Option String → Json
  | some text => .string text
  | none => .null

/-- A number of a width in hexadecimal digits. -/
def hexDigits (width n : Nat) : List Char :=
  let digits := Nat.toDigits 16 n
  List.replicate (width - digits.length) '0' ++ digits

/-- A character inside a string. -/
def escape (c : Char) : List Char :=
  match c with
  | '"' => ['\\', '"']
  | '\\' => ['\\', '\\']
  | '\x08' => ['\\', 'b']
  | '\x0c' => ['\\', 'f']
  | '\n' => ['\\', 'n']
  | '\r' => ['\\', 'r']
  | '\t' => ['\\', 't']
  | c => if c.toNat < 0x20 then '\\' :: 'u' :: hexDigits 4 c.toNat else [c]

/-- A string with its quotes. -/
def quoted (text : String) : List Char :=
  '"' :: (text.toList.flatMap escape ++ ['"'])

/-- A value that is no collection, or an empty one. -/
def leaf : Json → List Char
  | null => ['n', 'u', 'l', 'l']
  | bool true => ['t', 'r', 'u', 'e']
  | bool false => ['f', 'a', 'l', 's', 'e']
  | int n => (toString n).toList
  | float x => if x.isFinite then (NumberLayout.answer.render x).toList else ['n', 'u', 'l', 'l']
  | string text => quoted text
  | array _ => ['[', ']']
  | object _ => ['\x7b', '\x7d']

mutual

/-- The compact text of a value. -/
def compactChars : Json → List Char
  | array items => '[' :: ([','].intercalate (compactItems items) ++ [']'])
  | object entries => '\x7b' :: ([','].intercalate (compactEntries entries) ++ ['\x7d'])
  | value => leaf value

/-- The compact texts of elements. -/
def compactItems : List Json → List (List Char)
  | [] => []
  | item :: rest => compactChars item :: compactItems rest

/-- The compact texts of entries. -/
def compactEntries : List (String × Json) → List (List Char)
  | [] => []
  | (key, value) :: rest => (quoted key ++ ':' :: compactChars value) :: compactEntries rest

end

/-- The compact text of a value. -/
def compact (value : Json) : String :=
  String.ofList (compactChars value)

/-- The beginning of a line at a level. -/
def newLine (level : Nat) : List Char :=
  '\n' :: List.replicate (2 * level) ' '

/-- Texts between brackets on lines of their own, one level further in than the brackets. -/
def bracketed (left right : Char) (level : Nat) (texts : List (List Char)) : List Char :=
  if texts.isEmpty then [left, right]
  else
    left :: (newLine (level + 1) ++ (',' :: newLine (level + 1)).intercalate texts ++
      newLine level ++ [right])

mutual

/-- The pretty text of a value at a level. -/
def prettyChars (level : Nat) : Json → List Char
  | array items => bracketed '[' ']' level (prettyItems (level + 1) items)
  | object entries => bracketed '\x7b' '\x7d' level (prettyEntries (level + 1) entries)
  | value => leaf value

/-- The pretty texts of elements. -/
def prettyItems (level : Nat) : List Json → List (List Char)
  | [] => []
  | item :: rest => prettyChars level item :: prettyItems level rest

/-- The pretty texts of entries. -/
def prettyEntries (level : Nat) : List (String × Json) → List (List Char)
  | [] => []
  | (key, value) :: rest =>
    (quoted key ++ ':' :: ' ' :: prettyChars level value) :: prettyEntries level rest

end

/-- The pretty text of a value. -/
def pretty (value : Json) : String :=
  String.ofList (prettyChars 0 value)

end Json

end Dashboards
