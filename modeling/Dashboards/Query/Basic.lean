import Dashboards.Filter.Basic
import Dashboards.Visualization

/-!
# Queries

A query is written out or put together from an output selection, an event, a condition and a
display. Its text is what the interface runs.
-/

namespace Dashboards

/-- A named `SELECT` clause. -/
structure OutputSelection where
  name : String
  /-- The clause with its keyword. -/
  nrql : String
deriving DecidableEq, Inhabited

/-- A named way of showing the rows of a query. -/
structure Display where
  name : String
  /-- What is added behind the condition. -/
  nrql : Option String
  visualization : Visualization
deriving DecidableEq, Inhabited

/-- A display with a clause as it is written. A blank clause is none. -/
def Display.make (name : String) (nrql : Option String) (visualization : Visualization) : Display :=
  ⟨name, nrql.bind Text.nonBlank?, visualization⟩

/-- A query put together from components. -/
structure ComponentQuery where
  event : String
  condition : Option Filter
  output : OutputSelection
  display : Display
deriving DecidableEq, Inhabited

/-- The text of a query from components: the output, the event, the condition if it restricts
anything, and the clause of the display if it has one. -/
def ComponentQuery.text (query : ComponentQuery) : String :=
  let condition := match query.condition.bind (·.nrql) with
    | some nrql => " WHERE " ++ nrql
    | none => ""
  let display := match query.display.nrql with
    | some nrql => " " ++ nrql
    | none => ""
  query.output.nrql ++ " FROM " ++ query.event ++ condition ++ display

/-- Where the text of a query comes from. -/
inductive QuerySource where
  /-- It is written out. -/
  | inline (nrql : String) (visualization : Visualization)
  /-- It is put together from components. -/
  | components (query : ComponentQuery)
deriving DecidableEq, Inhabited

/-- A named query with a title. -/
structure Query where
  name : String
  title : String
  notes : Option String
  source : QuerySource
deriving DecidableEq, Inhabited

namespace Query

/-- The text of a query. -/
def text (query : Query) : String :=
  match query.source with
  | .inline nrql _ => nrql
  | .components components => components.text

/-- How a query is shown. -/
def visualization (query : Query) : Visualization :=
  match query.source with
  | .inline _ visualization => visualization
  | .components components => components.display.visualization

end Query

/-- Output selections by name. -/
abbrev OutputTable := Table OutputSelection

/-- Displays by name. -/
abbrev DisplayTable := Table Display

/-- Queries by name. -/
abbrev QueryTable := Table Query

/-- The components that queries may name. -/
structure Components where
  filters : FilterTable
  outputs : OutputTable
  displays : DisplayTable
deriving Inhabited

end Dashboards
