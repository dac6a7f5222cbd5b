import Dashboards.Config.Basic
import Dashboards.Error
import Dashboards.Query.Basic
import Dashboards.Traced

/-!
# Compiling displays and queries

A query with an expression of its own is inline: it has a title and a visualization and names no
component. Any other query is put together from an output selection and a display, and from an
event, a filter or both; its visualization is that of the display. When it gives both, the event has
to be the event of the filter. Of several faults the first in a fixed order is reported.
-/

namespace Dashboards

/-- The visualization that a text names. -/
def Visualization.ofText (text : String) : Except Error Visualization :=
  match ofText? text with
  | some visualization => .ok visualization
  | none => .error (.visualization (.unknown text))

namespace Display

/-- Reads a display. It needs a visualization. -/
def ofConfig (name : String) (config : Config.Display) : Except Error Display := do
  match config.visualization with
  | none => throw (.visualization (.missing name))
  | some text => return make name config.nrql (← Visualization.ofText text)

/-- Adds the displays of a section to a table, in order. -/
def addAll : List (String × Config.Display) → DisplayTable → Except Error DisplayTable
  | [], displays => .ok displays
  | (name, config) :: rest, displays => do
    let display ← ofConfig name config
    addAll rest (displays.insert name display)

/-- The displays that a section declares. -/
def compile (configs : Table Config.Display) : Except Error DisplayTable :=
  addAll configs.entries Table.empty

end Display

namespace Query

/-- A field that a query has to have. -/
def required (query field : String) : Option String → Except Error String
  | some text => .ok text
  | none => .error (.query (.fieldMissing field query))

/-- The component of a name in a table. -/
def component {α : Type} (query field name : String) (table : Table α) : Except Error α :=
  match table.get? name with
  | some record => .ok record
  | none => .error (.query (.unknownComponent field name query))

/-- The names of the fields that refer to components and are given, in order. -/
def componentFields (config : Config.Query) : List String :=
  [("event", config.event), ("filter", config.filter), ("output", config.output),
    ("display", config.display)].filterMap fun (field, value) => value.map fun _ => field

/-- Compiles a query with an expression of its own. -/
def compileInline (name : String) (config : Config.Query) : Except Error Query := do
  let title ← required name "title" config.title
  let nrql ← required name "nrql" config.nrql
  let visualization ← required name "visualization" config.visualization
  match componentFields config with
  | field :: _ => throw (.query (.notInline field name))
  | [] =>
    let visualization ← Visualization.ofText visualization
    return ⟨name, title, config.notes, .inline (Text.trim nrql) visualization⟩

/-- The event of a query, given the one that it declares and its condition. -/
def eventOf (name : String) (event : Option String) (condition : Option Filter) :
    Except Error String :=
  match event.map Text.trim, condition with
  | some event, some filter =>
    if event = filter.event then .ok event
    else .error (.query (.eventConflict event name filter.event filter.name))
  | some event, none => .ok event
  | none, some filter => .ok filter.event
  | none, none => .error (.query (.eventOrFilterMissing name))

/-- Compiles a query that is put together from components. -/
def compileComponents (name : String) (config : Config.Query) (components : Components) :
    Except Error Query := do
  let title ← required name "title" config.title
  if config.event.isNone && config.filter.isNone then
    throw (.query (.eventOrFilterMissing name))
  let outputName ← required name "output" config.output
  let displayName ← required name "display" config.display
  if config.visualization.isSome then
    throw (.query (.visualizationNotInline name))
  let condition ← config.filter.mapM fun filter =>
    component name "filter" filter components.filters
  let output ← component name "output" outputName components.outputs
  let display ← component name "display" displayName components.displays
  let event ← eventOf name config.event condition
  return ⟨name, title, config.notes, .components ⟨event, condition, output, display⟩⟩

/-- Compiles a query. -/
def ofConfig (name : String) (config : Config.Query) (components : Components) :
    Except Error Query :=
  if config.nrql.isSome then compileInline name config
  else compileComponents name config components

/-- Adds the queries of a section to a table, in order. -/
def addAll (components : Components) :
    List (String × Config.Query) → QueryTable → Traced Error QueryTable
  | [], queries => return queries
  | (name, config) :: rest, queries => do
    let query ← Traced.lift (ofConfig name config components)
    Traced.debug s!"Query {name} compiles to {query.text}"
    addAll components rest (queries.insert name query)

/-- The queries that a section declares. -/
def compile (configs : Table Config.Query) (components : Components) : Traced Error QueryTable :=
  addAll components configs.entries Table.empty

end Query

end Dashboards
