import Dashboards.Output.Compile
import Dashboards.Proofs.Filter.Unresolvable
import Dashboards.Proofs.Restriction

/-!
# What a dashboard reaches

The entries of a configuration lead to others that they name (`Config.Leads`): dashboards to
reusable widgets and queries, reusable widgets to queries, queries to filters, output selections and
displays, output selections to the filters that stand for their conditions, and filters to those
that they extend. A query that is written in place names what a query of its own would name. The
slice of a configuration for a dashboard has this dashboard and what it reaches, and nothing else
(`Config.slice`).
-/

namespace Dashboards

namespace OutputSelection

/-- The condition of a structured component, as it is written. -/
def Component.condition? : Yaml.Value → Option String
  | .mapping entries => do
    let (_, value) ← wrapped? entries
    (← (Body.ofValue value).toOption).condition
  | _ => none

/-- The conditions of the components of an output selection, as they are written. -/
def conditions : Yaml.Value → List String
  | .sequence items => items.filterMap Component.condition?
  | value => (Component.condition? value).toList

end OutputSelection

namespace Config

open Relation

/-- An entry of a configuration by its section and its name. -/
inductive Entry where
  | filter (name : String)
  | output (name : String)
  | display (name : String)
  | query (name : String)
  | widget (name : String)
  | dashboard (name : String)

/-- What a query names. -/
inductive Query.Names (query : Query) : Entry → Prop
  | filter {name : String} : query.filter = some name → Names query (.filter name)
  | output {name : String} : query.output = some name → Names query (.output name)
  | display {name : String} : query.display = some name → Names query (.display name)

/-- What a reference to a query names: the query, or what the query in its place names. -/
inductive QueryReference.Names : QueryReference → Entry → Prop
  | named {name : String} : Names (.named name) (.query name)
  | inline {query : Query} {entry : Entry} : query.Names entry → Names (.inline query) entry

/-- Only a reference by its name names a query. -/
theorem QueryReference.names_query_iff {reference : QueryReference} {name : String} :
    reference.Names (.query name) ↔ reference = .named name := by
  constructor
  · rintro (_ | ⟨⟨⟩⟩)
    rfl
  · rintro rfl
    exact .named

/-- What a placement names. -/
inductive Placement.Names (placement : Placement) : Entry → Prop
  | widget {name : String} : placement.widget = some name → Names placement (.widget name)
  | query {reference : QueryReference} {entry : Entry} : placement.query = some reference →
      reference.Names entry → Names placement entry

/-- An entry leads to those that its declaration names. -/
inductive Leads (config : Config) : Entry → Entry → Prop
  | dashboard {name : String} {dashboard : Dashboard} {placement : Placement} {entry : Entry} :
      config.dashboards.get? name = some dashboard → placement ∈ dashboard.widgets →
      placement.Names entry → Leads config (.dashboard name) entry
  | widget {name : String} {widget : Widget} {reference : QueryReference} {entry : Entry} :
      config.widgets.get? name = some widget → widget.query = some reference →
      reference.Names entry → Leads config (.widget name) entry
  | query {name : String} {query : Query} {entry : Entry} :
      config.queries.get? name = some query → query.Names entry → Leads config (.query name) entry
  /-- A condition that is not the name of a filter leads nowhere. -/
  | output {name condition : String} {value : Yaml.Value} :
      config.outputs.get? name = some value → condition ∈ OutputSelection.conditions value →
      Leads config (.output name) (.filter condition)
  | filter {name target : String} : Filter.Refers config.filters.get? name target →
      Leads config (.filter name) (.filter target)

/-- What a dashboard reaches. -/
def Reaches (config : Config) (dashboard : String) : Entry → Prop :=
  ReflTransGen config.Leads (.dashboard dashboard)

/-- What a dashboard leads to through what it reaches, it reaches. -/
theorem Reaches.leads {config : Config} {dashboard : String} {entry target : Entry}
    (h : config.Reaches dashboard entry) (hleads : config.Leads entry target) :
    config.Reaches dashboard target :=
  ReflTransGen.tail h hleads

/-- A dashboard reaches no other one: nothing names a dashboard. -/
theorem Reaches.dashboard_eq {config : Config} {dashboard name : String}
    (h : config.Reaches dashboard (.dashboard name)) : name = dashboard := by
  rcases h.cases_tail with heq | ⟨entry, -, hleads⟩
  · exact Entry.dashboard.inj heq
  · rcases hleads with ⟨-, -, ⟨⟩ | ⟨-, ⟨⟩ | ⟨⟨⟩⟩⟩⟩ | ⟨-, -, ⟨⟩ | ⟨⟨⟩⟩⟩ | ⟨-, ⟨⟩⟩

open Classical in
/-- The configuration of one dashboard: the entries that it reaches, in their order. -/
noncomputable def slice (config : Config) (dashboard : String) : Config where
  filters := config.filters.restrict fun name => config.Reaches dashboard (.filter name)
  outputs := config.outputs.restrict fun name => config.Reaches dashboard (.output name)
  displays := config.displays.restrict fun name => config.Reaches dashboard (.display name)
  queries := config.queries.restrict fun name => config.Reaches dashboard (.query name)
  widgets := config.widgets.restrict fun name => config.Reaches dashboard (.widget name)
  dashboards := config.dashboards.restrict (· = dashboard)

end Config

end Dashboards
