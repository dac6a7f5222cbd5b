import Dashboards.Dashboard.Basic
import Dashboards.Output.Component
import Dashboards.Proofs.Filter.Reading

/-!
# What configurations mean

The dashboards of a configuration are evaluated from its sections alone, without any table of
records in between: a placement leads to a query or to a reusable widget by its name, a query to the
filter, the output selection and the display that it names, and each of these to its own
declaration. What a query or a reusable widget shows, wherever it is placed, is a `View`. A function
here has no result where a name is not declared or a field is missing that it needs.
-/

namespace Dashboards

/-- What is shown: a query with a title and notes. -/
structure View where
  title : String
  query : String
  visualization : Visualization
  notes : Option String

namespace View

/-- The view under another title and with other notes, if they are given. -/
def override (view : View) (title notes : Option String) : View :=
  { view with title := title.getD view.title, notes := notes.or view.notes }

/-- The widget that shows a view in a place. -/
def place (view : View) (layout : Layout) : Widget :=
  ⟨view.title, view.query, view.visualization, layout, view.notes⟩

end View

namespace Config

/-- A text behind a word, or nothing. -/
def behind (word : String) (text : Option String) : String :=
  (text.map (word ++ ·)).getD ""

variable (config : Config)

/-- What the filter of a name means. -/
def reading? (name : String) : Option Reading :=
  Filter.Declarations.reading? config.filters.get? name

/-- The condition that a text stands for: the text of the filter of that name, or else itself. -/
def condition? (text : String) : Option String :=
  if config.filters.contains text then
    (config.reading? text).bind fun reading => reading.formula.map Formula.text
  else some text

/-- The text of a component of an output selection. -/
def component? : Yaml.Value → Option String
  | .text nrql => some nrql
  | .mapping entries => do
    let (wrapper, value) ← OutputSelection.Component.wrapped? entries
    let body ← (OutputSelection.Body.ofValue value).toOption
    let function ← body.function
    let condition ← config.condition? (← body.condition)
    return wrapper.keyword ++ "(" ++ function ++ ", WHERE " ++ condition ++ ")" ++
      OutputSelection.Component.labelText (Text.trimmed? body.label)
  | _ => none

/-- The texts of the components of an output selection: those of a list, which is not empty, or the
only one. -/
def components? : Yaml.Value → Option (List String)
  | .sequence items => if items.isEmpty then none else items.mapM config.component?
  | value => return [← config.component? value]

/-- The clause that an output selection declares. -/
def clause? (value : Yaml.Value) : Option String := do
  return "SELECT " ++ String.intercalate ", " (← config.components? value)

/-- What a display means under a name. -/
def showing? (name : String) (display : Config.Display) : Option Dashboards.Display := do
  let visualization ← Visualization.ofText? (← display.visualization)
  return ⟨name, Text.trimmed? display.nrql, visualization⟩

/-- What a query with an expression of its own shows. -/
def inlineView? (query : Config.Query) : Option View := do
  let visualization ← Visualization.ofText? (← query.visualization)
  return ⟨← query.title, Text.trim (← query.nrql), visualization, query.notes⟩

/-- What a query shows that is put together from components: its event is the one that it declares
itself, or else that of its filter. -/
def componentsView? (query : Config.Query) : Option View := do
  let filter ← query.filter.mapM config.reading?
  let event ← (query.event.map Text.trim).or (filter.map Reading.event)
  let output ← config.clause? (← config.outputs.get? (← query.output))
  let display ← showing? (← query.display) (← config.displays.get? (← query.display))
  let condition := (filter.bind Reading.formula).map Formula.text
  return ⟨← query.title,
    output ++ " FROM " ++ event ++ behind " WHERE " condition ++ behind " " display.nrql,
    display.visualization, query.notes⟩

/-- What a query shows. -/
def view? (query : Config.Query) : Option View :=
  if query.nrql.isSome then inlineView? query else config.componentsView? query

/-- What the query shows that a reference leads to. -/
def referenceView? : Config.QueryReference → Option View
  | .named name => do config.view? (← config.queries.get? name)
  | .inline query => config.view? query

/-- What a reusable widget shows. -/
def widgetView? (widget : Config.Widget) : Option View := do
  let view ← config.referenceView? (← widget.query)
  return view.override widget.title widget.notes

/-- What a placement shows: a query or a reusable widget. -/
def placementView? (placement : Config.Placement) : Option View :=
  match placement.query, placement.widget with
  | some reference, none => config.referenceView? reference
  | none, some name => do config.widgetView? (← config.widgets.get? name)
  | _, _ => none

/-- The place that a placement gives. -/
def layout? (placement : Config.Placement) : Option Layout := do
  return ⟨← placement.row, ← placement.column, ← placement.width, ← placement.height⟩

/-- The widget of a placement. -/
def widget? (placement : Config.Placement) : Option Dashboards.Widget := do
  return (← config.placementView? placement).place (← layout? placement)

/-- The dashboard that is declared under a name. -/
def dashboard? (name : String) (dashboard : Config.Dashboard) : Option Dashboards.Dashboard := do
  return ⟨name, ← dashboard.title, ← dashboard.widgets.mapM config.widget?⟩

/-- All dashboards with their names, in the order of declaration. -/
def dashboards? : Option (List (String × Dashboards.Dashboard)) :=
  config.dashboards.entries.mapM fun (name, dashboard) => do
    return (name, ← config.dashboard? name dashboard)

end Config

end Dashboards
