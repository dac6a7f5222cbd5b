import Dashboards.Proofs.Document.Growth

/-!
# Ways to place a query

A query comes to a dashboard by its name or in place, and each of these directly or through a
reusable widget (`Config.Way`). Each way compiles the query in another stage and under another name.
The name is in no view and in no kind of an error (`Query.ofConfig_alike`), and what is added to a
configuration changes nothing that it declares, since every name that is used there has a record
already. So a configuration with the query placed compiles to its tables with the widget added
(`Compiled.result_placed`), in whatever way the query is placed (`Compiled.placed_agree`).
-/

namespace Dashboards

variable {components : Components}

/-! ## Names of queries -/

/-- Errors of the same kind. -/
def Error.SameKind (e e' : Error) : Prop :=
  e.kind = e'.kind

namespace Query

variable {name name' : String}

/-- Queries that show the same, or errors of the same kind. -/
abbrev AlikeInView : Except Error Query → Except Error Query → Prop :=
  Alike Error.SameKind fun query query' => query.view = query'.view

/-- A field is required alike of queries of any names. -/
theorem required_alike (field : String) (value : Option String) :
    Alike Error.SameKind Eq (required name field value) (required name' field value) := by
  cases value with
  | none => exact .error rfl
  | some text => exact .ok rfl

/-- A component is found alike for queries of any names. -/
theorem component_alike {α : Type} (field key : String) (table : Table α) :
    Alike Error.SameKind Eq (component name field key table) (component name' field key table) := by
  rw [component, component]
  cases table.get? key with
  | none => exact .error rfl
  | some record => exact .ok rfl

/-- A condition is found alike for queries of any names. -/
theorem condition_alike (declared : Option String) (filters : FilterTable) :
    Alike Error.SameKind Eq
      (declared.mapM fun filter => component name "filter" filter filters)
      (declared.mapM fun filter => component name' "filter" filter filters) := by
  cases declared with
  | none => exact .ok rfl
  | some filter =>
    refine (component_alike "filter" filter filters).map ?_
    rintro found _ rfl
    rfl

/-- The event is found alike for queries of any names. -/
theorem eventOf_alike (event : Option String) (condition : Option Filter) :
    Alike Error.SameKind Eq (eventOf name event condition) (eventOf name' event condition) := by
  cases event with
  | none =>
    cases condition with
    | none => exact .error rfl
    | some filter => exact .ok rfl
  | some event =>
    cases condition with
    | none => exact .ok rfl
    | some filter =>
      simp only [eventOf, Option.map_some]
      split
      · exact .ok rfl
      · exact .error rfl

/-- A visualization is named alike for all queries. -/
theorem ofText_alike (text : String) :
    Alike Error.SameKind Eq (Visualization.ofText text) (Visualization.ofText text) := by
  cases Visualization.ofText text with
  | error e => exact .error rfl
  | ok visualization => exact .ok rfl

/-- A query with an expression of its own compiles alike under any names. -/
theorem compileInline_alike (config : Config.Query) :
    AlikeInView (compileInline name config) (compileInline name' config) := by
  refine (required_alike "title" config.title).bind ?_
  rintro title _ rfl
  refine (required_alike "nrql" config.nrql).bind ?_
  rintro nrql _ rfl
  refine (required_alike "visualization" config.visualization).bind ?_
  rintro text _ rfl
  cases componentFields config with
  | cons field _ => exact .error rfl
  | nil =>
    refine (ofText_alike text).bind ?_
    rintro visualization _ rfl
    exact .ok rfl

/-- Steps behind a guard are alike if they are without it. -/
theorem ite_throw_alike {α : Type} {R : α → α → Prop} {p : Bool} {e e' : Error}
    {x y : Except Error α} (he : e.SameKind e') (h : Alike Error.SameKind R x y) :
    Alike Error.SameKind R (if p = true then (do throw e; x) else x)
      (if p = true then (do throw e'; y) else y) := by
  cases p with
  | true => exact .error he
  | false => exact h

/-- A query that is put together from components compiles alike under any names. -/
theorem compileComponents_alike (config : Config.Query) :
    AlikeInView (compileComponents name config components)
      (compileComponents name' config components) := by
  refine (required_alike "title" config.title).bind ?_
  rintro title _ rfl
  refine ite_throw_alike rfl ((required_alike "output" config.output).bind ?_)
  rintro outputName _ rfl
  refine (required_alike "display" config.display).bind ?_
  rintro displayName _ rfl
  refine ite_throw_alike rfl ((condition_alike config.filter components.filters).bind ?_)
  rintro condition _ rfl
  refine (component_alike "output" outputName components.outputs).bind ?_
  rintro output _ rfl
  refine (component_alike "display" displayName components.displays).bind ?_
  rintro display _ rfl
  refine (eventOf_alike config.event condition).bind ?_
  rintro event _ rfl
  exact .ok rfl

/-- A query compiles alike under any names: to the same view, or to an error of the same kind. -/
theorem ofConfig_alike (name name' : String) (config : Config.Query) (components : Components) :
    AlikeInView (ofConfig name config components) (ofConfig name' config components) := by
  rw [ofConfig, ofConfig]
  split
  · exact compileInline_alike config
  · exact compileComponents_alike config

/-- Queries with the same view are the same widgets. -/
theorem place_eq_of_view {query query' : Query} (h : query.view = query'.view) (layout : Layout) :
    query.place layout = query'.place layout := by
  injection h with htitle htext hvisualization hnotes
  rw [place, place, htitle, htext, hvisualization, hnotes]

end Query

/-- A query compiles under every name to the same widget in a place, or under no name, with errors
of one kind. -/
theorem Query.ofConfig_every_name (config : Config.Query) (components : Components)
    (layout : Layout) :
    (∃ widget : Widget, ∀ name, ∃ query,
      ofConfig name config components = .ok query ∧ query.place layout = widget) ∨
    ∃ kind, ∀ name, ∃ e, ofConfig name config components = .error e ∧ e.kind = kind := by
  have halike := fun name => ofConfig_alike "" name config components
  cases hfirst : ofConfig "" config components with
  | ok query =>
    refine .inl ⟨query.place layout, fun name => ?_⟩
    have hname := halike name
    rw [hfirst] at hname
    generalize ofConfig name config components = outcome at hname
    cases hname with
    | ok hview => exact ⟨_, rfl, (place_eq_of_view hview layout).symm⟩
  | error e =>
    refine .inr ⟨e.kind, fun name => ?_⟩
    have hname := halike name
    rw [hfirst] at hname
    generalize ofConfig name config components = outcome at hname
    cases hname with
    | error hkind => exact ⟨_, rfl, hkind.symm⟩

/-! ## Ways -/

/-- A query that is to be placed on a dashboard, and names for it and for a reusable widget with
it. -/
structure Config.Addition where
  dashboard : String
  query : Config.Query
  layout : Layout
  queryName : String
  widgetName : String

/-- The ways to place a query. -/
inductive Config.Way where
  | named | inPlace | widgetNamed | widgetInPlace
deriving DecidableEq

namespace Config

namespace Way

/-- Whether the query is declared and then named. -/
def names : Way → Bool
  | named | widgetNamed => true
  | inPlace | widgetInPlace => false

/-- Whether a reusable widget has the query. -/
def reuses : Way → Bool
  | widgetNamed | widgetInPlace => true
  | named | inPlace => false

end Way

namespace Addition

variable (addition : Addition) (way : Way)

/-- The reference to the query. -/
def reference : QueryReference :=
  if way.names then .named addition.queryName else .inline addition.query

/-- The reusable widget, with the title and the notes of the query. -/
def widget : Widget :=
  { query := some (addition.reference way) }

/-- The placement, with the whole layout. -/
def placement : Placement where
  query := if way.reuses then none else some (addition.reference way)
  widget := if way.reuses then some addition.widgetName else none
  row := some addition.layout.row
  column := some addition.layout.column
  width := some addition.layout.width
  height := some addition.layout.height

end Addition

/-- The configuration with a query placed on a dashboard. -/
def place (config : Config) (addition : Addition) (way : Way) : Config :=
  { config with
    queries :=
      if way.names then config.queries.insert addition.queryName addition.query
      else config.queries
    widgets :=
      if way.reuses then config.widgets.insert addition.widgetName (addition.widget way)
      else config.widgets
    dashboards :=
      config.dashboards.modify addition.dashboard (·.append (addition.placement way)) }

end Config

/-! ## Stages -/

namespace Compiled

variable {config : Config} {compiled : Compiled}

/-- A configuration with the components of one that compiles is compiled in the other stages. -/
theorem result_of_components (h : (ofConfig config).result = .ok compiled)
    (queries : Table Config.Query) (widgets : Table Config.Widget)
    (dashboards : Table Config.Dashboard) :
    (ofConfig { config with queries, widgets, dashboards }).result = (do
      let queries ← (Query.compile queries compiled.components).result
      let widgets ← WidgetDefinition.compile widgets queries compiled.components
      let dashboards ← (Dashboard.compile dashboards
        ⟨compiled.components, queries, widgets⟩).result
      return { compiled with queries, widgets, dashboards }) := by
  obtain ⟨hfilters, houtputs, hdisplays, -⟩ := ofConfig_eq_ok_iff.1 h
  simp only [ofConfig, withFilters, withOutputs, withDisplays, withQueries, withWidgets,
    withDashboards, components, placeable, Traced.result_bind, Traced.result_pure,
    Traced.result_lift, Traced.result_debug, hfilters, Except.bind, houtputs, hdisplays]
  cases (Query.compile queries ⟨compiled.filters, compiled.outputs, compiled.displays⟩).result with
  | error e => rfl
  | ok queries =>
    change Except.bind (Except.bind (WidgetDefinition.compile widgets queries _) _) _ =
      Except.bind (WidgetDefinition.compile widgets queries _) _
    cases WidgetDefinition.compile widgets queries
      ⟨compiled.filters, compiled.outputs, compiled.displays⟩ with
    | error e => rfl
    | ok widgets =>
      change Except.bind (Except.bind (Dashboard.compile dashboards _).result _) _ =
        Except.bind (Dashboard.compile dashboards _).result _
      cases (Dashboard.compile dashboards
        ⟨⟨compiled.filters, compiled.outputs, compiled.displays⟩, queries, widgets⟩).result <;> rfl

/-- A query that is declared under a new name comes to those that are there. -/
theorem compile_insert_query (h : (ofConfig config).result = .ok compiled) (name : String)
    (query : Config.Query) :
    (Query.compile (config.queries.insert name query) compiled.components).result =
      (Query.ofConfig name query compiled.components).map (compiled.queries.insert name) :=
  Table.insert_of_section (Query.compile_entries _ _) (Query.compile_entries _ _)
    (ofConfig_eq_ok_iff.1 h).2.2.2.1 fun _ _ _ hread => hread

section
variable {queries : QueryTable}

/-- The reusable widgets are the same if there are more queries. -/
theorem compile_widgets (h : (ofConfig config).result = .ok compiled)
    (hqueries : compiled.queries.Extends queries) :
    WidgetDefinition.compile config.widgets queries compiled.components = .ok compiled.widgets :=
  Table.eq_of_section (WidgetDefinition.compile_entries _ _ _)
    (WidgetDefinition.compile_entries _ _ _) (ofConfig_eq_ok_iff.1 h).2.2.2.2.1
    fun _ _ _ => WidgetDefinition.ofConfig_mono hqueries

/-- A reusable widget that is declared under a new name comes to those that are there. -/
theorem compile_insert_widget (h : (ofConfig config).result = .ok compiled)
    (hqueries : compiled.queries.Extends queries) (name : String) (widget : Config.Widget) :
    WidgetDefinition.compile (config.widgets.insert name widget) queries compiled.components =
      (WidgetDefinition.ofConfig name widget queries compiled.components).map
        (compiled.widgets.insert name) :=
  Table.insert_of_section (WidgetDefinition.compile_entries _ _ _)
    (WidgetDefinition.compile_entries _ _ _) (ofConfig_eq_ok_iff.1 h).2.2.2.2.1
    fun _ _ _ => WidgetDefinition.ofConfig_mono hqueries

/-- A placement at the end of a dashboard adds its widget there and changes nothing else, if there
may be more to place. -/
theorem compile_append_placement (h : (ofConfig config).result = .ok compiled)
    {widgets : WidgetTable} (hqueries : compiled.queries.Extends queries)
    (hwidgets : compiled.widgets.Extends widgets) {name : String}
    (hname : name ∈ config.dashboards.names) :
    ∃ position, ∀ placement : Config.Placement,
      (Dashboard.compile (config.dashboards.modify name (·.append placement))
        ⟨compiled.components, queries, widgets⟩).result =
      (Widget.ofConfig name position placement ⟨compiled.components, queries, widgets⟩).map
        fun widget => compiled.dashboards.modify name (·.append widget) := by
  obtain ⟨declared, hdeclared⟩ := Table.mem_names_iff.1 hname
  have hcompile := (ofConfig_eq_ok_iff.1 h).2.2.2.2.2
  have hentries := Dashboard.compile_entries config.dashboards compiled.placeable
  rw [hcompile] at hentries
  obtain ⟨board, hboard⟩ := Table.exists_read_of_get? hentries.symm hdeclared
  have hget := (Table.get?_of_readEntries hentries.symm).2 ⟨declared, hdeclared, hboard⟩
  have htables : compiled.placeable.Extends ⟨compiled.components, queries, widgets⟩ :=
    ⟨rfl, hqueries, hwidgets⟩
  refine ⟨declared.widgets.length, fun placement => ?_⟩
  rw [Table.modify_of_get? hdeclared, Table.insert_of_section (Dashboard.compile_entries _ _)
    (Dashboard.compile_entries _ _) hcompile fun _ _ _ => Dashboard.ofConfig_mono htables,
    Dashboard.ofConfig_append (Dashboard.ofConfig_mono htables hboard)]
  simp only [Table.modify_of_get? hget]
  cases Widget.ofConfig name declared.widgets.length placement
    ⟨compiled.components, queries, widgets⟩ <;> rfl

end

/-! ## All ways -/

variable (addition : Config.Addition)

/-- The tables with a query placed on a dashboard. -/
def place (compiled : Compiled) (addition : Config.Addition) (way : Config.Way) (query : Query) :
    Compiled :=
  { compiled with
    queries :=
      if way.names then compiled.queries.insert addition.queryName query else compiled.queries
    widgets :=
      if way.reuses then
        compiled.widgets.insert addition.widgetName
          (WidgetDefinition.ofQuery addition.widgetName query none none)
      else compiled.widgets
    dashboards :=
      compiled.dashboards.modify addition.dashboard (·.append (query.place addition.layout)) }

section
variable {queries : QueryTable} {widgets : WidgetTable} {way : Config.Way}

/-- A placement of a query itself is what its reference leads to. -/
theorem ofConfig_placement_of_not_reuses (hreuses : way.reuses = false) (position : Nat)
    (tables : Placeable) :
    ∃ placeName unknown, Widget.ofConfig addition.dashboard position (addition.placement way)
        tables =
      (Query.ofReference (addition.reference way) placeName tables.queries tables.components
        unknown).map (·.place addition.layout) := by
  refine ⟨s!"{addition.dashboard}-inline-query-{position + 1}",
    (.unknownPlacedQuery · addition.dashboard), ?_⟩
  have hquery : (addition.placement way).query = some (addition.reference way) := by
    simp [Config.Addition.placement, hreuses]
  have hwidget : (addition.placement way).widget = none := by
    simp [Config.Addition.placement, hreuses]
  have hlayout : Widget.layoutOf addition.dashboard (addition.placement way) =
      .ok addition.layout := rfl
  simp only [Widget.ofConfig, hquery, hwidget, hlayout]
  exact bind_pure_eq_map _ fun query : Query => query.place addition.layout

/-- A placement of a reusable widget that shows a query as it is is the query in its place. -/
theorem ofConfig_placement_of_reuses (hreuses : way.reuses = true) (position : Nat)
    {tables : Placeable} {query : Query}
    (hget : tables.widgets.get? addition.widgetName =
      some (WidgetDefinition.ofQuery addition.widgetName query none none)) :
    Widget.ofConfig addition.dashboard position (addition.placement way) tables =
      .ok (query.place addition.layout) := by
  have hquery : (addition.placement way).query = none := by
    simp [Config.Addition.placement, hreuses]
  have hwidget : (addition.placement way).widget = some addition.widgetName := by
    simp [Config.Addition.placement, hreuses]
  simp only [Widget.ofConfig, hquery, hwidget, hget]
  rfl

/-- After the queries, a configuration with a query placed compiles to what its reference leads
to. -/
theorem result_after_queries (h : (ofConfig config).result = .ok compiled)
    (hqueries : compiled.queries.Extends queries)
    (hboard : addition.dashboard ∈ config.dashboards.names)
    (hwidget : addition.widgetName ∉ config.widgets.names) (way : Config.Way) :
    ∃ placeName unknown, (do
      let widgets ← WidgetDefinition.compile (config.place addition way).widgets queries
        compiled.components
      let dashboards ← (Dashboard.compile (config.place addition way).dashboards
        ⟨compiled.components, queries, widgets⟩).result
      return { compiled with queries, widgets, dashboards }) =
      (Query.ofReference (addition.reference way) placeName queries compiled.components
        unknown).map fun query => { compiled.place addition way query with queries } := by
  have hnew : addition.widgetName ∉ compiled.widgets.names := by
    rw [Table.names_of_section (WidgetDefinition.compile_entries _ _ _)
      (ofConfig_eq_ok_iff.1 h).2.2.2.2.1]
    exact hwidget
  cases hreuses : way.reuses with
  | false =>
    obtain ⟨position, happend⟩ := compile_append_placement h hqueries (.refl _) hboard
    obtain ⟨placeName, unknown, hplacement⟩ := ofConfig_placement_of_not_reuses addition hreuses
      position ⟨compiled.components, queries, compiled.widgets⟩
    refine ⟨placeName, unknown, ?_⟩
    simp only [Config.place, place, hreuses, Bool.false_eq_true, if_false,
      compile_widgets h hqueries, bind, Except.bind, happend, hplacement]
    cases Query.ofReference (addition.reference way) placeName queries compiled.components
      unknown <;> rfl
  | true =>
    refine ⟨addition.widgetName ++ "-inline-query", (.unknownQuery · addition.widgetName), ?_⟩
    simp only [Config.place, place, hreuses, if_true, compile_insert_widget h hqueries,
      WidgetDefinition.ofConfig, Config.Addition.widget]
    cases Query.ofReference (addition.reference way) (addition.widgetName ++ "-inline-query")
      queries compiled.components (.unknownQuery · addition.widgetName) with
    | error e => rfl
    | ok query =>
      obtain ⟨position, happend⟩ := compile_append_placement h hqueries
        (Table.extends_insert hnew
          (WidgetDefinition.ofQuery addition.widgetName query none none)) hboard
      have hplacement := happend (addition.placement way)
      rw [ofConfig_placement_of_reuses addition hreuses position
        (by rw [Table.get?_insert, if_pos rfl])] at hplacement
      change ((Dashboard.compile _ _).result >>= _) = _
      exact hplacement ▸ rfl

end

/-- A configuration with a query placed compiles exactly if the query does, under some name, and
then to its tables with the query placed. -/
theorem result_place (h : (ofConfig config).result = .ok compiled)
    (hboard : addition.dashboard ∈ config.dashboards.names)
    (hquery : addition.queryName ∉ config.queries.names)
    (hwidget : addition.widgetName ∉ config.widgets.names) (way : Config.Way) :
    ∃ name, (ofConfig (config.place addition way)).result =
      (Query.ofConfig name addition.query compiled.components).map
        (compiled.place addition way) := by
  have hqueries := (ofConfig_eq_ok_iff.1 h).2.2.2.1
  have hnew : addition.queryName ∉ compiled.queries.names := by
    rw [Table.names_of_section (Query.compile_entries _ _) hqueries]
    exact hquery
  have hresult := result_of_components h (config.place addition way).queries
    (config.place addition way).widgets (config.place addition way).dashboards
  change (ofConfig (config.place addition way)).result = _ at hresult
  cases hnames : way.names with
  | false =>
    have hsame : (config.place addition way).queries = config.queries := by
      simp [Config.place, hnames]
    have hreference : addition.reference way = .inline addition.query := by
      simp [Config.Addition.reference, hnames]
    have hplaced : ∀ query, { compiled.place addition way query with queries := compiled.queries } =
        compiled.place addition way query := by
      simp [place, hnames]
    obtain ⟨placeName, unknown, hafter⟩ :=
      result_after_queries addition h (.refl _) hboard hwidget way
    refine ⟨placeName, hresult.trans ?_⟩
    rw [hsame, hqueries]
    refine hafter.trans ?_
    simp only [hplaced, hreference]
    rfl
  | true =>
    have hinsert : (config.place addition way).queries =
        config.queries.insert addition.queryName addition.query := by
      simp [Config.place, hnames]
    have hreference : addition.reference way = .named addition.queryName := by
      simp [Config.Addition.reference, hnames]
    refine ⟨addition.queryName, hresult.trans ?_⟩
    rw [hinsert, compile_insert_query h]
    cases Query.ofConfig addition.queryName addition.query compiled.components with
    | error e => rfl
    | ok query =>
      obtain ⟨placeName, unknown, hafter⟩ := result_after_queries addition h
        (Table.extends_insert hnew query) hboard hwidget way
      refine hafter.trans ?_
      simp [hreference, Query.ofReference, place, hnames, Except.map]

/-- What can be placed stays when a query is placed under new names. -/
theorem extends_place (hquery : addition.queryName ∉ compiled.queries.names)
    (hwidget : addition.widgetName ∉ compiled.widgets.names) (way : Config.Way) (query : Query) :
    compiled.placeable.Extends (compiled.place addition way query).placeable where
  components := rfl
  queries := by
    cases hnames : way.names with
    | false => simpa [place, placeable, hnames] using Table.Extends.refl _
    | true => simpa [place, placeable, hnames] using Table.extends_insert hquery query
  widgets := by
    cases hreuses : way.reuses with
    | false => simpa [place, placeable, hreuses] using Table.Extends.refl _
    | true => simpa [place, placeable, hreuses] using Table.extends_insert hwidget _

/-- All ways to place a query on a dashboard of a configuration that compiles agree. Either the
query compiles under every name, and each way adds the same widget to the dashboard and changes
nothing else of what was there; or it does not, and each way fails with an error of the kind of
its. -/
theorem place_agree (h : (ofConfig config).result = .ok compiled)
    (hboard : addition.dashboard ∈ config.dashboards.names)
    (hquery : addition.queryName ∉ config.queries.names)
    (hwidget : addition.widgetName ∉ config.widgets.names) :
    (∃ board widget, compiled.dashboards.get? addition.dashboard = some board ∧
      (∀ name, ∃ query,
        Query.ofConfig name addition.query compiled.components = .ok query ∧
        query.place addition.layout = widget) ∧
      ∀ way, ∃ compiled', (ofConfig (config.place addition way)).result = .ok compiled' ∧
        compiled'.dashboards =
          compiled.dashboards.insert addition.dashboard (board.append widget) ∧
        compiled.placeable.Extends compiled'.placeable) ∨
    ∃ kind, (∀ name, ∃ e,
        Query.ofConfig name addition.query compiled.components = .error e ∧ e.kind = kind) ∧
      ∀ way, ∃ e, (ofConfig (config.place addition way)).result = .error e ∧ e.kind = kind := by
  obtain ⟨-, -, -, hqueries, hwidgets, hdashboards⟩ := ofConfig_eq_ok_iff.1 h
  have hresult := result_place addition h hboard hquery hwidget
  rcases Query.ofConfig_every_name addition.query compiled.components addition.layout with
    ⟨widget, hall⟩ | ⟨kind, hall⟩
  · obtain ⟨board, hget⟩ : ∃ board, compiled.dashboards.get? addition.dashboard = some board := by
      rw [← Table.mem_names_iff, Table.names_of_section (Dashboard.compile_entries _ _) hdashboards]
      exact hboard
    refine .inl ⟨board, widget, hget, hall, fun way => ?_⟩
    obtain ⟨name, hway⟩ := hresult way
    obtain ⟨query, hread, rfl⟩ := hall name
    rw [hread] at hway
    refine ⟨compiled.place addition way query, hway, Table.modify_of_get? hget _,
      extends_place addition ?_ ?_ way query⟩
    · rwa [Table.names_of_section (Query.compile_entries _ _) hqueries]
    · rwa [Table.names_of_section (WidgetDefinition.compile_entries _ _ _) hwidgets]
  · refine .inr ⟨kind, hall, fun way => ?_⟩
    obtain ⟨name, hway⟩ := hresult way
    obtain ⟨e, hread, hkind⟩ := hall name
    exact ⟨e, by rw [hway, hread]; rfl, hkind⟩

/-- A query for the example, put together from what is there. -/
def refunds : Config.Addition where
  dashboard := "shop"
  query :=
    { title := some "Refunds", notes := some "Since yesterday", filter := some "paid",
      output := some "count", display := some "daily" }
  layout := ⟨6, 1, 4, 3⟩
  queryName := "refunds"
  widgetName := "refunds"

/-- The widget that shows it. -/
def refundsWidget : Widget :=
  ⟨"Refunds", "SELECT count(*) FROM Transaction WHERE (amount > 0) TIMESERIES 1 day", .lineChart,
    ⟨6, 1, 4, 3⟩, some "Since yesterday"⟩

/-- In whatever way the query is placed in the example, its dashboard has the widget at its end. -/
theorem place_agree_shop :
    ∃ compiled, (ofConfig shopConfig).result = .ok compiled ∧
      ∀ way, ∃ compiled', (ofConfig (shopConfig.place refunds way)).result = .ok compiled' ∧
        compiled'.dashboards.entries =
          shopDashboards.map fun entry => (entry.1, entry.2.append refundsWidget) := by
  have hshop : (ofConfig shopConfig).result.toOption.map (fun _ => ()) = some () := by
    decide +kernel
  have hnamed : (ofConfig (shopConfig.place refunds .named)).result.toOption.map
      (·.dashboards.entries) =
      some (shopDashboards.map fun entry => (entry.1, entry.2.append refundsWidget)) := by
    decide +kernel
  obtain ⟨compiled, h, -⟩ := exists_ok_of_toOption_map hshop
  obtain ⟨compiled₁, h₁, hentries⟩ := exists_ok_of_toOption_map hnamed
  refine ⟨compiled, h, fun way => ?_⟩
  rcases place_agree refunds h (by decide) (by decide) (by decide) with
    ⟨board, widget, -, -, hways⟩ | ⟨kind, -, hways⟩
  · obtain ⟨compiled₂, h₂, hnamed, -⟩ := hways .named
    obtain ⟨compiled', h', hdashboards, -⟩ := hways way
    cases h₁.symm.trans h₂
    exact ⟨compiled', h', by rw [hdashboards, ← hnamed, hentries]⟩
  · obtain ⟨e, he, -⟩ := hways .named
    cases h₁.symm.trans he

end Compiled

end Dashboards
