import Dashboards.Dashboard.Basic
import Dashboards.Query.Compile

/-!
# Assembling widgets and dashboards

A reusable widget takes its query by name or in place, and may override the title and the notes of
the query. A dashboard places reusable widgets and queries on its grid; the number of a query in
place counts all placements of the dashboard. Of several faults of a placement the first in a fixed
order is reported.
-/

namespace Dashboards

/-- The query that a reference leads to: a query of the table, or one in place under a name for
it. -/
def Query.ofReference (reference : Config.QueryReference) (placeName : String)
    (queries : QueryTable) (components : Components) (unknown : String → WidgetFault) :
    Except Error Query :=
  match reference with
  | .named name =>
    match queries.get? name with
    | some query => .ok query
    | none => .error (.widget (unknown name))
  | .inline config => Query.ofConfig placeName config components

namespace WidgetDefinition

/-- A reusable widget that shows a query, with what overrides its title and its notes. -/
def ofQuery (name : String) (query : Query) (title notes : Option String) : WidgetDefinition :=
  ⟨name, title.getD query.title, query.text, query.visualization, notes <|> query.notes⟩

/-- Reads a reusable widget. -/
def ofConfig (name : String) (config : Config.Widget) (queries : QueryTable)
    (components : Components) : Except Error WidgetDefinition := do
  match config.query with
  | none => throw (.widget (.queryMissing name))
  | some reference =>
    let query ← Query.ofReference reference (name ++ "-inline-query") queries components
      (.unknownQuery · name)
    return ofQuery name query config.title config.notes

/-- Adds the reusable widgets of a section to a table, in order. -/
def addAll (queries : QueryTable) (components : Components) :
    List (String × Config.Widget) → WidgetTable → Except Error WidgetTable
  | [], widgets => .ok widgets
  | (name, config) :: rest, widgets => do
    let widget ← ofConfig name config queries components
    addAll queries components rest (widgets.insert name widget)

/-- The reusable widgets that a section declares. -/
def compile (configs : Table Config.Widget) (queries : QueryTable) (components : Components) :
    Except Error WidgetTable :=
  addAll queries components configs.entries Table.empty

end WidgetDefinition

/-- The tables that placements refer to. -/
structure Placeable where
  components : Components
  queries : QueryTable
  widgets : WidgetTable
deriving Inhabited

namespace Widget

/-- A field that a placement has to have. -/
def required {α : Type} (dashboard field : String) : Option α → Except Error α
  | some value => .ok value
  | none => .error (.widget (.placementField field dashboard))

/-- The place that a placement gives. -/
def layoutOf (dashboard : String) (config : Config.Placement) : Except Error Layout := do
  let row ← required dashboard "row" config.row
  let column ← required dashboard "column" config.column
  let width ← required dashboard "width" config.width
  let height ← required dashboard "height" config.height
  return ⟨row, column, width, height⟩

/-- Places a reusable widget or a query. The placement is the one at `position` on its
dashboard. -/
def ofConfig (dashboard : String) (position : Nat) (config : Config.Placement)
    (tables : Placeable) : Except Error Widget := do
  match config.query, config.widget with
  | none, none => throw (.widget (.placementField "query" dashboard))
  | some _, some _ => throw (.widget (.queryAndWidget dashboard))
  | none, some name =>
    let layout ← layoutOf dashboard config
    match tables.widgets.get? name with
    | some definition => return definition.place layout
    | none => throw (.widget (.unknownWidget name dashboard))
  | some reference, none =>
    let layout ← layoutOf dashboard config
    let placeName := s!"{dashboard}-inline-query-{position + 1}"
    let query ← Query.ofReference reference placeName tables.queries tables.components
      (.unknownPlacedQuery · dashboard)
    return query.place layout

/-- Places the widgets of a dashboard, the first one at `position`. -/
def placeAll (dashboard : String) (tables : Placeable) :
    (position : Nat) → List Config.Placement → Except Error (List Widget)
  | _, [] => .ok []
  | position, config :: rest => do
    let widget ← ofConfig dashboard position config tables
    let others ← placeAll dashboard tables (position + 1) rest
    return widget :: others

end Widget

namespace Dashboard

/-- Reads a dashboard. It needs a title. -/
def ofConfig (name : String) (config : Config.Dashboard) (tables : Placeable) :
    Except Error Dashboard := do
  match config.title with
  | none => throw (.dashboard (.titleMissing name))
  | some title => return ⟨name, title, ← Widget.placeAll name tables 0 config.widgets⟩

/-- Adds the dashboards of a section to a table, in order. -/
def addAll (tables : Placeable) :
    List (String × Config.Dashboard) → DashboardTable → Traced Error DashboardTable
  | [], dashboards => return dashboards
  | (name, config) :: rest, dashboards => do
    let dashboard ← Traced.lift (ofConfig name config tables)
    Traced.debug s!"Dashboard {name} assembled with {dashboard.widgets.length} widgets"
    addAll tables rest (dashboards.insert name dashboard)

/-- The dashboards that a section declares. -/
def compile (configs : Table Config.Dashboard) (tables : Placeable) :
    Traced Error DashboardTable :=
  addAll tables configs.entries Table.empty

end Dashboard

end Dashboards
