import Dashboards.Config.Read
import Dashboards.Dashboard.Compile
import Dashboards.Filter.Resolve
import Dashboards.Output.Compile

/-!
# Compiled documents

A configuration is compiled stage by stage: filters, output selections, displays, queries, widgets
and dashboards. Each stage sees the tables before it and nothing else.
-/

namespace Dashboards

/-- All tables of a document. -/
structure Compiled where
  filters : FilterTable := Table.empty
  outputs : OutputTable := Table.empty
  displays : DisplayTable := Table.empty
  queries : QueryTable := Table.empty
  widgets : WidgetTable := Table.empty
  dashboards : DashboardTable := Table.empty
deriving Inhabited

namespace Compiled

/-- The components of a document that queries may name. -/
def components (compiled : Compiled) : Components :=
  ⟨compiled.filters, compiled.outputs, compiled.displays⟩

/-- The tables of a document that placements refer to. -/
def placeable (compiled : Compiled) : Placeable :=
  ⟨compiled.components, compiled.queries, compiled.widgets⟩

/-- How many entries the tables have, in words. -/
def summary (compiled : Compiled) : String :=
  s!"Compiled {compiled.filters.size} filters, {compiled.outputs.size} output selections, " ++
    s!"{compiled.displays.size} displays, {compiled.queries.size} queries, " ++
    s!"{compiled.widgets.size} widgets and {compiled.dashboards.size} dashboards"

/-! ## Stages

Each stage adds its table to those that are there. -/

/-- Adds the filters. -/
def withFilters (config : Config) (compiled : Compiled) : Traced Error Compiled := do
  return { compiled with filters := ← Filter.compile config.filters }

/-- Adds the output selections. -/
def withOutputs (config : Config) (compiled : Compiled) : Traced Error Compiled := do
  return { compiled with outputs := ← OutputSelection.compile config.outputs compiled.filters }

/-- Adds the displays. -/
def withDisplays (config : Config) (compiled : Compiled) : Traced Error Compiled := do
  return { compiled with displays := ← Traced.lift (Display.compile config.displays) }

/-- Adds the queries. -/
def withQueries (config : Config) (compiled : Compiled) : Traced Error Compiled := do
  return { compiled with queries := ← Query.compile config.queries compiled.components }

/-- Adds the reusable widgets. -/
def withWidgets (config : Config) (compiled : Compiled) : Traced Error Compiled := do
  let widgets ← Traced.lift <|
    WidgetDefinition.compile config.widgets compiled.queries compiled.components
  return { compiled with widgets }

/-- Adds the dashboards. -/
def withDashboards (config : Config) (compiled : Compiled) : Traced Error Compiled := do
  return { compiled with dashboards := ← Dashboard.compile config.dashboards compiled.placeable }

/-- Compiles a configuration. -/
def ofConfig (config : Config) : Traced Error Compiled := do
  let compiled ← withFilters config {}
  let compiled ← withOutputs config compiled
  let compiled ← withDisplays config compiled
  let compiled ← withQueries config compiled
  let compiled ← withWidgets config compiled
  let compiled ← withDashboards config compiled
  Traced.debug compiled.summary
  return compiled

/-- The configuration that a text declares. -/
def decode (text : String) : Traced Error Config :=
  Traced.lift ((Config.ofText text).mapError .parse)

/-- Compiles a document. A blank one has empty tables, without being decoded. -/
def ofText (text : String) : Traced Error Compiled :=
  if Text.isBlankText text then return {}
  else do ofConfig (← decode text)

end Compiled

end Dashboards
