import Dashboards.Error
import Dashboards.Query.Basic

/-!
# Components of output selections

A component is an expression as it is written, or a structured one that wraps an aggregation in
`FILTER` or `PERCENTAGE` with a condition. The body of a structured component is a raw value that
has at most the fields `function`, `condition` and `label`, each a text (`Body.ofValue`). Its
condition may be the name of a filter, whose expression then takes its place
(`Component.ofGroup`).
-/

namespace Dashboards

namespace OutputSelection

/-- What a structured component wraps an aggregation in. -/
inductive Wrapper where
  | filter | percentage
deriving DecidableEq, Inhabited

/-- The key of a component with the wrapper. -/
def Wrapper.key : Wrapper → String
  | filter => "filter"
  | percentage => "percentage"

/-- The word that the wrapper renders as. -/
def Wrapper.keyword : Wrapper → String
  | filter => "FILTER"
  | percentage => "PERCENTAGE"

/-- The wrappers. If a component has the keys of both, the first counts. -/
def Wrapper.all : List Wrapper := [.filter, .percentage]

/-- The body of a structured component as it is declared. -/
structure Body where
  function : Option String := none
  condition : Option String := none
  label : Option String := none
deriving DecidableEq, Inhabited

namespace Body

/-- The fields of a body. -/
inductive Field where
  | function | condition | label
deriving DecidableEq

/-- The name of a field. -/
def Field.name : Field → String
  | function => "function"
  | condition => "condition"
  | label => "label"

/-- All fields, in order. -/
def Field.all : List Field := [.function, .condition, .label]

/-- The field that a key of a body means. -/
def Field.ofKey (key : Yaml.Value) : Except Yaml.Mismatch Field :=
  match key.untagged with
  | .text name =>
    match all.find? fun field => field.name = name with
    | some field => .ok field
    | none => .error (.unknownField name (all.map Field.name))
  | other => .error (.wrongType other.found "field identifier")

/-- A text in a body. Null alone stands for an absent text; a null with a tag does not. -/
def text? : Yaml.Value → Except Yaml.Mismatch (Option String)
  | .null => .ok none
  | value =>
    match value.untagged with
    | .text text => .ok (some text)
    | other => .error (.wrongType other.found "a string")

/-- The body with a text in a field. -/
def put (body : Body) (text : Option String) : Field → Body
  | .function => { body with function := text }
  | .condition => { body with condition := text }
  | .label => { body with label := text }

/-- Reads the entries of a body in order, none of whose fields may have been seen before. -/
def ofEntries : List (Yaml.Value × Yaml.Value) → (seen : List Field) → Body →
    Except Yaml.Mismatch Body
  | [], _, body => .ok body
  | (key, value) :: rest, seen, body => do
    let field ← Field.ofKey key
    if seen.contains field then throw (.duplicateField field.name)
    let text ← text? value
    ofEntries rest (field :: seen) (body.put text field)

/-- Reads a body. Null stands for a body without fields. -/
def ofValue (value : Yaml.Value) : Except Yaml.Mismatch Body :=
  match value.untagged with
  | .mapping entries => ofEntries entries [] {}
  | .null => .ok {}
  | other => .error (.wrongType other.found "struct GroupedComponent")

end Body

/-- A component with a meaning. -/
inductive Component where
  /-- An expression as it is written. -/
  | raw (nrql : String)
  /-- An aggregation under a condition, perhaps with a label. -/
  | grouped (wrapper : Wrapper) (function condition : String) (label : Option String)
deriving DecidableEq, Inhabited

namespace Component

/-- A label behind an expression. -/
def labelText : Option String → String
  | some label => " AS \x60" ++ label ++ "\x60"
  | none => ""

/-- The text of a component. -/
def text : Component → String
  | raw nrql => nrql
  | grouped wrapper function condition label =>
    wrapper.keyword ++ "(" ++ function ++ ", WHERE " ++ condition ++ ")" ++ labelText label

/-- What a condition stands for: the expression of the filter of that name, or else itself. A filter
that selects every row is no condition. -/
def conditionOf (output : String) (filters : FilterTable) (condition : String) :
    Except Error String :=
  match filters.get? condition with
  | none => .ok condition
  | some filter =>
    match filter.nrql with
    | some nrql => .ok nrql
    | none => .error (.output (.matchesAll condition output))

/-- A field that a structured component has to have. -/
def required (output : String) (wrapper : Wrapper) (field : Body.Field) :
    Option String → Except Error String
  | some text => .ok text
  | none => .error (.output (.fieldMissing field.name wrapper.keyword output))

/-- Reads a structured component from its body. A blank label is none. -/
def ofGroup (output : String) (filters : FilterTable) (wrapper : Wrapper) (value : Yaml.Value) :
    Except Error Component := do
  match Body.ofValue value with
  | .error reason => throw (.output (.body wrapper.keyword output reason))
  | .ok body =>
    let function ← required output wrapper .function body.function
    let condition ← required output wrapper .condition body.condition
    let condition ← conditionOf output filters condition
    return grouped wrapper function condition (body.label.bind Text.nonBlank?)

/-- The wrapper of a mapping, with the body under its key. -/
def wrapped? (entries : List (Yaml.Value × Yaml.Value)) : Option (Wrapper × Yaml.Value) :=
  Wrapper.all.findSome? fun wrapper =>
    (Yaml.Value.lookup wrapper.key entries).map fun body => (wrapper, body)

/-- Reads a component of an output selection. -/
def ofValue (output : String) (filters : FilterTable) : Yaml.Value → Except Error Component
  | .text nrql => .ok (raw nrql)
  | .mapping entries =>
    match wrapped? entries with
    | some (wrapper, body) => ofGroup output filters wrapper body
    | none => .error (.output (.keyMissing output))
  | other => .error (.output (.componentShape output other))

end Component

end OutputSelection

end Dashboards
