import Dashboards.Output.Component
import Dashboards.Traced

/-!
# Rendering output selections

An output selection is an expression, a structured component, or a list that mixes both; a list is
not empty. It renders as `SELECT` and its components with commas between them.
-/

namespace Dashboards.OutputSelection

/-- The components of an output selection. -/
def components (name : String) (filters : FilterTable) :
    Yaml.Value → Except Error (List Component)
  | .text nrql => .ok [.raw nrql]
  | .sequence [] => .error (.output (.emptyList name))
  | .sequence items => items.mapM (Component.ofValue name filters)
  | .mapping entries => do return [← Component.ofValue name filters (.mapping entries)]
  | other => .error (.output (.shape name other))

/-- The clause that components make. -/
def clause (components : List Component) : String :=
  "SELECT " ++ String.intercalate ", " (components.map (·.text))

/-- Reads an output selection. -/
def ofValue (name : String) (filters : FilterTable) (value : Yaml.Value) :
    Except Error OutputSelection := do
  return ⟨name, clause (← components name filters value)⟩

/-- Adds the output selections of a section to a table, in order. -/
def addAll (filters : FilterTable) :
    List (String × Yaml.Value) → OutputTable → Traced Error OutputTable
  | [], outputs => return outputs
  | (name, value) :: rest, outputs => do
    let output ← Traced.lift (ofValue name filters value)
    Traced.debug s!"Output selection {name} renders as {output.nrql}"
    addAll filters rest (outputs.insert name output)

/-- The output selections that a section declares. -/
def compile (configs : Table Yaml.Value) (filters : FilterTable) : Traced Error OutputTable :=
  addAll filters configs.entries Table.empty

end Dashboards.OutputSelection
