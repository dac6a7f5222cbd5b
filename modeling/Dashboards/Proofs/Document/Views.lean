import Dashboards.Dashboard.Compile
import Dashboards.Proofs.Document.Components

/-!
# Queries and reusable widgets show what they declare

A compiled query shows the view of its declaration, given components that are faithful to the
configuration (`Query.view?_of_ofConfig`): the clauses of its text come from the records that the
tables hold under the names it gives. The tables of queries and of reusable widgets are then
faithful too (`Placeable.Faithful`).
-/

namespace Dashboards

variable {config : Config} {components : Components}

/-! ## Queries -/

/-- What a compiled query shows. -/
def Query.view (query : Query) : View :=
  ⟨query.title, query.text, query.visualization, query.notes⟩

/-- What a compiled reusable widget shows. -/
def WidgetDefinition.view (definition : WidgetDefinition) : View :=
  ⟨definition.title, definition.query, definition.visualization, definition.notes⟩

namespace Query

/-- A field that a query has to have is there exactly if it is given. -/
theorem required_eq_ok_iff {query field : String} {value : Option String} {text : String} :
    required query field value = .ok text ↔ value = some text := by
  cases value <;> simp [required]

/-- A component is found exactly if the table has it. -/
theorem component_eq_ok_iff {α : Type} {query field name : String} {table : Table α} {record : α} :
    component query field name table = .ok record ↔ table.get? name = some record := by
  rw [component]
  cases table.get? name <;> simp

/-- A query with an expression of its own compiles exactly if it has a title and a visualization
that is known, and names no component. -/
theorem compileInline_eq_ok_iff {name : String} {declared : Config.Query} {query : Query} :
    compileInline name declared = .ok query ↔
      ∃ title nrql text visualization, declared.title = some title ∧
        declared.nrql = some nrql ∧ declared.visualization = some text ∧
        componentFields declared = [] ∧ Visualization.ofText? text = some visualization ∧
        query = ⟨name, title, declared.notes, .inline (Text.trim nrql) visualization⟩ := by
  simp only [compileInline, bind_eq_ok_iff, required_eq_ok_iff]
  constructor
  · rintro ⟨title, htitle, nrql, hnrql, text, htext, h⟩
    split at h
    · cases h
    · next hfields =>
      obtain ⟨visualization, hvisualization, hresult⟩ := bind_eq_ok_iff.1 h
      cases hresult
      exact ⟨title, nrql, text, visualization, htitle, hnrql, htext, hfields,
        Visualization.ofText_eq_ok_iff.1 hvisualization, rfl⟩
  · rintro ⟨title, nrql, text, visualization, htitle, hnrql, htext, hfields, hvisualization, rfl⟩
    refine ⟨title, htitle, nrql, hnrql, text, htext, ?_⟩
    rw [hfields]
    exact bind_eq_ok_iff.2 ⟨visualization, Visualization.ofText_eq_ok_iff.2 hvisualization, rfl⟩

/-- A query with an expression of its own that compiles shows what it declares. -/
theorem view?_of_compileInline {name : String} {declared : Config.Query} {query : Query}
    (hread : compileInline name declared = .ok query) :
    Config.inlineView? declared = some query.view := by
  obtain ⟨title, nrql, text, visualization, htitle, hnrql, htext, -, hvisualization, rfl⟩ :=
    compileInline_eq_ok_iff.1 hread
  simp [Config.inlineView?, htitle, hnrql, htext, hvisualization, view, Query.text,
    Query.visualization]

/-- The event of a query is its own, or else that of its filter. -/
theorem event_of_eventOf {name : String} {declared : Option String} {condition : Option Filter}
    {event : String} (hevent : eventOf name declared condition = .ok event) :
    (declared.map Text.trim).or (condition.map Filter.event) = some event := by
  cases declared with
  | none =>
    cases condition with
    | none => cases hevent
    | some filter => simpa [eventOf] using hevent
  | some text =>
    cases condition with
    | none => simpa [eventOf] using hevent
    | some filter =>
      simp only [eventOf, Option.map_some] at hevent
      split at hevent
      · simpa using hevent
      · cases hevent

/-- The filter that a query names, if any, is the reading of the name. -/
theorem readings_of_condition (h : components.Faithful config) {name : String}
    {declared : Option String} {condition : Option Filter}
    (hread : (declared.mapM fun filter => component name "filter" filter components.filters) =
      .ok condition) :
    ∃ reading : Option Reading, declared.mapM config.reading? = some reading ∧
      condition.map Filter.event = reading.map Reading.event ∧
      condition.bind Filter.nrql = (reading.bind Reading.formula).map Formula.text := by
  cases declared with
  | none =>
    cases hread
    exact ⟨none, rfl, rfl, rfl⟩
  | some text =>
    obtain ⟨filter, hfilter, hresult⟩ := bind_eq_ok_iff.1 hread
    cases hresult
    obtain ⟨reading, hreading, rfl⟩ := h.reading? (component_eq_ok_iff.1 hfilter)
    exact ⟨some reading, by simp [hreading], rfl, rfl⟩

/-- A query is put together from components exactly if it has a title, names components that the
tables have, gives an event or a filter and no visualization, and its event is that of the
filter. -/
theorem compileComponents_eq_ok_iff {name : String} {declared : Config.Query} {query : Query} :
    compileComponents name declared components = .ok query ↔
      ∃ title outputName displayName condition output display event,
        declared.title = some title ∧ ¬ (declared.event = none ∧ declared.filter = none) ∧
        declared.output = some outputName ∧ declared.display = some displayName ∧
        declared.visualization = none ∧
        (declared.filter.mapM fun filter => component name "filter" filter components.filters) =
          .ok condition ∧
        components.outputs.get? outputName = some output ∧
        components.displays.get? displayName = some display ∧
        eventOf name declared.event condition = .ok event ∧
        query = ⟨name, title, declared.notes, .components ⟨event, condition, output, display⟩⟩ := by
  rw [compileComponents]
  simp only [ite_throw_eq_ok_iff, bind_eq_ok_iff, required_eq_ok_iff, component_eq_ok_iff]
  constructor
  · rintro ⟨title, htitle, hgiven, outputName, houtputName, displayName, hdisplayName,
      hvisualization, condition, hcondition, output, houtput, display, hdisplay, event, hevent,
      hresult⟩
    cases hresult
    refine ⟨title, outputName, displayName, condition, output, display, event, htitle, ?_,
      houtputName, hdisplayName, by simpa using hvisualization, hcondition, houtput, hdisplay,
      hevent, rfl⟩
    rintro ⟨he, hf⟩
    simp [he, hf] at hgiven
  · rintro ⟨title, outputName, displayName, condition, output, display, event, htitle, hgiven,
      houtputName, hdisplayName, hvisualization, hcondition, houtput, hdisplay, hevent, rfl⟩
    refine ⟨title, htitle, ?_, outputName, houtputName, displayName, hdisplayName,
      by simp [hvisualization], condition, hcondition, output, houtput, display, hdisplay, event,
      hevent, rfl⟩
    rw [← Bool.not_eq_true, Bool.and_eq_true, Option.isNone_iff_eq_none, Option.isNone_iff_eq_none]
    exact hgiven

/-- A query put together from components that compiles shows what it declares. -/
theorem view?_of_compileComponents (h : components.Faithful config) {name : String}
    {declared : Config.Query} {query : Query}
    (hread : compileComponents name declared components = .ok query) :
    config.componentsView? declared = some query.view := by
  obtain ⟨title, outputName, displayName, condition, output, display, event, htitle, -, houtputName,
    hdisplayName, -, hcondition, houtput, hdisplay, hevent, rfl⟩ :=
    compileComponents_eq_ok_iff.1 hread
  obtain ⟨reading, hreading, hevents, hnrql⟩ := readings_of_condition h hcondition
  obtain ⟨value, hvalue, hclause⟩ := Option.bind_eq_some_iff.1 (h.clause? houtput)
  obtain ⟨shown, hshown, hshowing⟩ := Option.bind_eq_some_iff.1 (h.showing? hdisplay)
  have hevent := event_of_eventOf hevent
  rw [hevents] at hevent
  have htext : (ComponentQuery.mk event condition output display).text =
      output.nrql ++ " FROM " ++ event ++
        Config.behind " WHERE " ((reading.bind Reading.formula).map Formula.text) ++
        Config.behind " " display.nrql := by
    rw [← hnrql]
    cases hc : condition.bind Filter.nrql <;> cases hd : display.nrql <;>
      simp [ComponentQuery.text, Config.behind, hc, hd]
  simp [Config.componentsView?, htitle, houtputName, hdisplayName, hreading, hvalue, hclause,
    hshown, hshowing, hevent, view, Query.text, Query.visualization, htext]

/-- A query that compiles shows what it declares. -/
theorem view?_of_ofConfig (h : components.Faithful config) {name : String}
    {declared : Config.Query} {query : Query}
    (hread : ofConfig name declared components = .ok query) :
    config.view? declared = some query.view := by
  rw [ofConfig] at hread
  rw [Config.view?]
  split at hread
  · rw [if_pos ‹_›, view?_of_compileInline hread]
  · rw [if_neg ‹_›, view?_of_compileComponents h hread]

/-- The table of queries holds what is read of each declaration. -/
theorem compile_entries (configs : Table Config.Query) (components : Components) :
    (compile configs components).result.map Table.entries =
      readEntries (fun name config => ofConfig name config components) configs.entries := by
  refine entries_of_section
    (fun entries table => (addAll components entries table).result) (fun _ => rfl)
    (fun name config rest table => ?_) configs
  simp only [addAll, Traced.result_bind, Traced.result_lift, Traced.result_debug, Except.bind]

end Query

/-- The table of queries holds what the configuration means. -/
def QueryTable.Faithful (config : Config) (queries : QueryTable) : Prop :=
  ∀ name query, queries.get? name = some query →
    (config.queries.get? name).bind config.view? = some query.view

/-- Queries that compile with faithful components are faithful. -/
theorem QueryTable.faithful_of_compile (h : components.Faithful config) {queries : QueryTable}
    (hqueries : (Query.compile config.queries components).result = .ok queries) :
    queries.Faithful config := by
  intro name query hget
  obtain ⟨declared, hdeclared, hread⟩ :=
    Table.exists_declared_of_get? (Query.compile_entries _ _) hqueries hget
  rw [hdeclared]
  exact Query.view?_of_ofConfig h hread

variable {queries : QueryTable}

/-- The name of a query leads to the query that the table has under it. -/
theorem Query.ofReference_named_eq_ok_iff {name placeName : String}
    {unknown : String → WidgetFault} {query : Query} :
    ofReference (.named name) placeName queries components unknown = .ok query ↔
      queries.get? name = some query := by
  rw [ofReference]
  cases queries.get? name <;> simp

/-- The query that a reference leads to shows what the configuration means by the reference. -/
theorem Query.referenceView?_of_ofReference (h : components.Faithful config)
    (hqueries : queries.Faithful config) {reference : Config.QueryReference} {placeName : String}
    {unknown : String → WidgetFault} {query : Query}
    (hread : ofReference reference placeName queries components unknown = .ok query) :
    config.referenceView? reference = some query.view := by
  cases reference with
  | inline declared => exact view?_of_ofConfig h hread
  | named name => exact hqueries name query (ofReference_named_eq_ok_iff.1 hread)

/-! ## Reusable widgets -/

namespace WidgetDefinition

/-- A reusable widget is read exactly if its query is. -/
theorem ofConfig_eq_ok_iff {name : String} {declared : Config.Widget}
    {definition : WidgetDefinition} :
    ofConfig name declared queries components = .ok definition ↔
      ∃ reference query, declared.query = some reference ∧
        Query.ofReference reference (name ++ "-inline-query") queries components
          (.unknownQuery · name) = .ok query ∧
        definition = ofQuery name query declared.title declared.notes := by
  rw [ofConfig]
  cases declared.query with
  | none => simp
  | some reference =>
    simp only [bind_eq_ok_iff, pure_eq_ok_iff, Option.some.injEq]
    constructor
    · rintro ⟨query, hquery, rfl⟩
      exact ⟨reference, query, rfl, hquery, rfl⟩
    · rintro ⟨_, query, rfl, hquery, rfl⟩
      exact ⟨query, hquery, rfl⟩

/-- A reusable widget that is read shows what it declares. -/
theorem widgetView?_of_ofConfig (h : components.Faithful config)
    (hqueries : queries.Faithful config) {name : String} {declared : Config.Widget}
    {definition : WidgetDefinition}
    (hread : ofConfig name declared queries components = .ok definition) :
    config.widgetView? declared = some definition.view := by
  obtain ⟨reference, query, hreference, hquery, rfl⟩ := ofConfig_eq_ok_iff.1 hread
  have hview := Query.referenceView?_of_ofReference h hqueries hquery
  simp [Config.widgetView?, hreference, hview, View.override, view, ofQuery, Query.view]

/-- The table of reusable widgets holds what is read of each declaration. -/
theorem compile_entries (configs : Table Config.Widget) (queries : QueryTable)
    (components : Components) :
    (compile configs queries components).map Table.entries =
      readEntries (fun name config => ofConfig name config queries components) configs.entries :=
  entries_of_section (addAll queries components) (fun _ => rfl) (fun _ _ _ _ => rfl)
    configs

end WidgetDefinition

/-! ## All that placements lead to -/

/-- The tables that placements refer to hold what the configuration means. -/
structure Placeable.Faithful (config : Config) (tables : Placeable) : Prop where
  components : tables.components.Faithful config
  queries : tables.queries.Faithful config
  widgetView? : ∀ {name definition}, tables.widgets.get? name = some definition →
    (config.widgets.get? name).bind config.widgetView? = some definition.view

/-- Tables that compile with faithful components are faithful. -/
theorem Placeable.faithful_of_compile {tables : Placeable}
    (h : tables.components.Faithful config)
    (hqueries : (Query.compile config.queries tables.components).result = .ok tables.queries)
    (hwidgets : WidgetDefinition.compile config.widgets tables.queries tables.components =
      .ok tables.widgets) :
    tables.Faithful config where
  components := h
  queries := QueryTable.faithful_of_compile h hqueries
  widgetView? := by
    intro name definition hget
    obtain ⟨declared, hdeclared, hread⟩ :=
      Table.exists_declared_of_get? (WidgetDefinition.compile_entries _ _ _) hwidgets hget
    rw [hdeclared]
    exact WidgetDefinition.widgetView?_of_ofConfig h (QueryTable.faithful_of_compile h hqueries)
      hread

end Dashboards
