import Dashboards.Yaml.Fault
import Dashboards.Yaml.Scalar

/-!
# Raw values

A raw value is a node with its type but without its place: scalars, sequences, mappings in document
order, and values with a local tag. Two mappings are the same whatever the order of their entries,
and numbers are compared as numbers (`Value.same`).
-/

namespace Dashboards.Yaml

/-- A raw value. -/
inductive Value where
  | null
  | bool (value : Bool)
  | int (value : Int)
  | float (value : Binary64)
  | text (value : String)
  | sequence (items : List Value)
  | mapping (entries : List (Value × Value))
  /-- A value with a local tag, given without its exclamation mark. -/
  | tagged (tag : String) (value : Value)
deriving Inhabited

namespace Value

/-- The text of a value that is one. -/
def text? : Value → Option String
  | text value => some value
  | _ => none

/-- The value without the tags around it. -/
def untagged : Value → Value
  | tagged _ value => untagged value
  | value => value

/-- A number without fraction as documents write it. -/
def intText (value : Int) : String :=
  toString value

/-- A tag as documents write it. -/
def tagText (tag : String) : String :=
  "!" ++ tag

mutual

/-- Whether two values are the same. -/
def same : Value → Value → Bool
  | null, null => true
  | bool a, bool b => a == b
  | int a, int b => a == b
  | float a, float b => a.same b
  | text a, text b => a == b
  | sequence as, sequence bs => sameItems as bs
  | mapping as, mapping bs => as.length == bs.length && sameEntries as bs
  | tagged s a, tagged t b => s == t && same a b
  | _, _ => false

/-- Whether the elements of two sequences are the same one by one. -/
def sameItems : List Value → List Value → Bool
  | [], [] => true
  | a :: as, b :: bs => same a b && sameItems as bs
  | _, _ => false

/-- Whether each entry is the same as one among others. -/
def sameEntries : List (Value × Value) → List (Value × Value) → Bool
  | [], _ => true
  | (key, value) :: rest, others =>
    others.any (fun other => same key other.1 && same value other.2) && sameEntries rest others

end

/-- The value under a key that is a text, if the mapping has it. -/
def lookup (name : String) : List (Value × Value) → Option Value
  | [] => none
  | (text key, value) :: rest => if key = name then some value else lookup name rest
  | _ :: rest => lookup name rest

/-- What a value is, for a decoder that wants something else. -/
def found : Value → Found
  | null => .unit
  | bool value => .bool value
  | int value => .int value
  | float value => .float value
  | text value => .text value
  | sequence _ => .sequence
  | mapping _ => .mapping
  | tagged _ value => value.found

/-- What a key is, for the message that it is repeated. -/
def repeatedKey : Value → RepeatedKey
  | null => .null
  | bool value => .bool value
  | int value => .number (intText value)
  | float value => .number (NumberLayout.document.render value)
  | text value => .text value
  | _ => .other

end Value

end Dashboards.Yaml
