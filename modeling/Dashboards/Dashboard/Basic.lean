import Dashboards.Query.Basic

/-!
# Dashboards

A dashboard is a title and a list of widgets on a grid. Widgets carry the text of their queries, so
a dashboard stands on its own.
-/

namespace Dashboards

/-- A reusable widget, without a place on a grid. -/
structure WidgetDefinition where
  name : String
  title : String
  query : String
  visualization : Visualization
  notes : Option String
deriving DecidableEq, Inhabited

/-- The place and the size of a widget on the grid. -/
structure Layout where
  row : Nat
  column : Nat
  width : Nat
  height : Nat
deriving DecidableEq, Inhabited

/-- A widget in its place. -/
structure Widget where
  title : String
  query : String
  visualization : Visualization
  layout : Layout
  notes : Option String
deriving DecidableEq, Inhabited

/-- A dashboard with its widgets in order. -/
structure Dashboard where
  name : String
  title : String
  widgets : List Widget
deriving DecidableEq, Inhabited

/-- A reusable widget in a place. -/
def WidgetDefinition.place (definition : WidgetDefinition) (layout : Layout) : Widget :=
  { title := definition.title, query := definition.query,
    visualization := definition.visualization, layout, notes := definition.notes }

/-- A query in a place. -/
def Query.place (query : Query) (layout : Layout) : Widget :=
  { title := query.title, query := query.text, visualization := query.visualization, layout,
    notes := query.notes }

/-- Reusable widgets by name. -/
abbrev WidgetTable := Table WidgetDefinition

/-- Dashboards by name. -/
abbrev DashboardTable := Table Dashboard

end Dashboards
