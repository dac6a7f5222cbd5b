import Dashboards.Proofs.Document.Dashboards
import Dashboards.Proofs.Document.Reachability
import Dashboards.Proofs.Filter.Restricted

/-!
# A dashboard depends on what it reaches

Each record of a compiled configuration depends on the tables only through the names in its own
declaration, so over tables that agree on these names it is the same, or fails with the same error
(`Query.ofConfig_congr`, `Widget.ofConfig_congr`, `Dashboard.ofConfig_congr`). Stage by stage, the
slice of a configuration for a dashboard then compiles to the part of the tables that the dashboard
reaches (`Compiled.agreeOn_slice`), and to the dashboard itself (`Compiled.ofConfig_slice`).
-/

namespace Dashboards

open Relation

variable {named : Config.Entry → Prop}

/-! ## Output selections -/

namespace OutputSelection

variable {output : String} {filters filters' : FilterTable}

/-- A condition stands for the same in tables that have the same under it. -/
theorem Component.conditionOf_congr {condition : String}
    (h : filters'.get? condition = filters.get? condition) :
    conditionOf output filters' condition = conditionOf output filters condition := by
  rw [conditionOf, conditionOf, h]

/-- A component depends on what the table of filters has under its condition. -/
theorem Component.ofValue_congr {value : Yaml.Value}
    (h : ∀ condition, condition? value = some condition →
      filters'.get? condition = filters.get? condition) :
    ofValue output filters' value = ofValue output filters value := by
  cases value with
  | mapping entries =>
    rw [ofValue, ofValue]
    cases hwrapped : wrapped? entries with
    | none => rfl
    | some wrapped =>
      obtain ⟨wrapper, value⟩ := wrapped
      simp only [ofGroup]
      cases hbody : Body.ofValue value with
      | error reason => rfl
      | ok body =>
        refine bind_congr_of_ok fun function _ => bind_congr_of_ok fun condition hcondition => ?_
        rw [required_eq_ok_iff] at hcondition
        have hwritten : condition? (.mapping entries) = some condition := by
          simp [condition?, hwrapped, hbody, hcondition, Except.toOption]
        rw [conditionOf_congr (h condition hwritten)]
  | _ => rfl

/-- The components of an output selection depend on what the table of filters has under their
conditions. -/
theorem components_congr {value : Yaml.Value}
    (h : ∀ condition ∈ conditions value, filters'.get? condition = filters.get? condition) :
    components output filters' value = components output filters value := by
  cases value with
  | mapping entries =>
    rw [components, components, Component.ofValue_congr]
    exact fun condition hcondition => h condition (by simp [conditions, hcondition])
  | sequence items =>
    by_cases hitems : items = []
    · subst hitems
      rfl
    · rw [components_sequence hitems, components_sequence hitems]
      refine mapM_congr_of_mem fun item hitem => Component.ofValue_congr ?_
      exact fun condition hcondition => h condition (List.mem_filterMap.2 ⟨item, hitem, hcondition⟩)
  | _ => rfl

/-- An output selection depends on what the table of filters has under its conditions. -/
theorem ofValue_congr {value : Yaml.Value}
    (h : ∀ condition ∈ conditions value, filters'.get? condition = filters.get? condition) :
    ofValue output filters' value = ofValue output filters value := by
  rw [ofValue, ofValue, components_congr h]

end OutputSelection

/-! ## Queries -/

/-- Components that are the same under the names of some entries. -/
structure Components.AgreeOn (named : Config.Entry → Prop) (components components' : Components) :
    Prop where
  filters : components.filters.AgreeOn (fun name => named (.filter name)) components'.filters
  outputs : components.outputs.AgreeOn (fun name => named (.output name)) components'.outputs
  displays : components.displays.AgreeOn (fun name => named (.display name)) components'.displays

variable {components components' : Components}

namespace Query

/-- A query that is put together depends on the components that it names. -/
theorem compileComponents_congr (h : components.AgreeOn named components') {name : String}
    {declared : Config.Query} (hnamed : ∀ entry, declared.Names entry → named entry) :
    compileComponents name declared components' = compileComponents name declared components := by
  have hcondition : (declared.filter.mapM fun filter =>
        component name "filter" filter components'.filters) =
      declared.filter.mapM fun filter =>
        component name "filter" filter components.filters := by
    cases hfilter : declared.filter with
    | none => rfl
    | some filter =>
      rw [Option.mapM_some, Option.mapM_some, component, component,
        h.filters filter (hnamed _ (.filter hfilter))]
  rw [compileComponents, compileComponents]
  refine bind_congr_of_ok fun title _ => ite_throw_congr ?_
  refine bind_congr_of_ok fun outputName houtput => ?_
  refine bind_congr_of_ok fun displayName hdisplay => ite_throw_congr ?_
  rw [required_eq_ok_iff] at houtput hdisplay
  rw [hcondition, component, component, component, component,
    h.outputs outputName (hnamed _ (.output houtput)),
    h.displays displayName (hnamed _ (.display hdisplay))]

/-- A query depends on the components that it names. -/
theorem ofConfig_congr (h : components.AgreeOn named components') {name : String}
    {declared : Config.Query} (hnamed : ∀ entry, declared.Names entry → named entry) :
    ofConfig name declared components' = ofConfig name declared components := by
  rw [ofConfig, ofConfig, compileComponents_congr h hnamed]

/-- The query that a reference leads to depends on what the reference names. -/
theorem ofReference_congr (h : components.AgreeOn named components') {queries queries' : QueryTable}
    (hqueries : queries.AgreeOn (fun name => named (.query name)) queries')
    {reference : Config.QueryReference} {placeName : String} {unknown : String → WidgetFault}
    (hnamed : ∀ entry, reference.Names entry → named entry) :
    ofReference reference placeName queries' components' unknown =
      ofReference reference placeName queries components unknown := by
  cases reference with
  | named name => rw [ofReference, ofReference, hqueries name (hnamed _ .named)]
  | inline query => exact ofConfig_congr h fun entry hentry => hnamed entry (.inline hentry)

end Query

/-! ## Reusable widgets, placements and dashboards -/

/-- A reusable widget depends on what its query names. -/
theorem WidgetDefinition.ofConfig_congr (h : components.AgreeOn named components')
    {queries queries' : QueryTable}
    (hqueries : queries.AgreeOn (fun name => named (.query name)) queries') {name : String}
    {declared : Config.Widget}
    (hnamed : ∀ reference, declared.query = some reference →
      ∀ entry, reference.Names entry → named entry) :
    ofConfig name declared queries' components' = ofConfig name declared queries components := by
  rw [ofConfig, ofConfig]
  cases hreference : declared.query with
  | none => rfl
  | some reference => simp only [Query.ofReference_congr h hqueries (hnamed reference hreference)]

/-- What placements refer to, the same under the names of some entries. -/
structure Placeable.AgreeOn (named : Config.Entry → Prop) (tables tables' : Placeable) : Prop where
  components : tables.components.AgreeOn named tables'.components
  queries : tables.queries.AgreeOn (fun name => named (.query name)) tables'.queries
  widgets : tables.widgets.AgreeOn (fun name => named (.widget name)) tables'.widgets

variable {tables tables' : Placeable}

namespace Widget

/-- A placement depends on what it names. -/
theorem ofConfig_congr (h : tables.AgreeOn named tables') {dashboard : String} {position : Nat}
    {declared : Config.Placement} (hnamed : ∀ entry, declared.Names entry → named entry) :
    ofConfig dashboard position declared tables' = ofConfig dashboard position declared tables := by
  rw [ofConfig, ofConfig]
  cases hquery : declared.query with
  | none =>
    cases hwidget : declared.widget with
    | none => rfl
    | some name => simp only [h.widgets name (hnamed _ (.widget hwidget))]
  | some reference =>
    cases declared.widget with
    | some name => rfl
    | none =>
      simp only [Query.ofReference_congr h.components h.queries
        fun entry hentry => hnamed entry (.query hquery hentry)]

/-- The placements of a dashboard depend on what they name. -/
theorem placeAll_congr (h : tables.AgreeOn named tables') {dashboard : String} {position : Nat}
    {declared : List Config.Placement}
    (hnamed : ∀ placement ∈ declared, ∀ entry, placement.Names entry → named entry) :
    placeAll dashboard tables' position declared = placeAll dashboard tables position declared := by
  induction declared generalizing position with
  | nil => rfl
  | cons placement rest ih =>
    rw [placeAll, placeAll, ofConfig_congr h (hnamed placement (by simp)),
      ih fun other hother => hnamed other (by simp [hother])]

end Widget

/-- A dashboard depends on what its placements name. -/
theorem Dashboard.ofConfig_congr (h : tables.AgreeOn named tables') {name : String}
    {declared : Config.Dashboard}
    (hnamed : ∀ placement ∈ declared.widgets, ∀ entry, placement.Names entry → named entry) :
    ofConfig name declared tables' = ofConfig name declared tables := by
  rw [ofConfig, ofConfig, Widget.placeAll_congr h hnamed]

/-! ## Slices -/

namespace Compiled

variable {config : Config} {compiled : Compiled}

open Classical in
/-- The slice of a configuration for a dashboard compiles to the parts of the tables that the
dashboard reaches, though its filters may be in another order. -/
theorem tables_of_slice (h : (ofConfig config).result = .ok compiled) (dashboard : String) :
    ∃ filters, compiled.filters.AgreeOn (fun name => config.Reaches dashboard (.filter name))
        filters ∧
      (ofConfig (config.slice dashboard)).result = .ok {
        filters
        outputs := compiled.outputs.restrict fun name => config.Reaches dashboard (.output name)
        displays := compiled.displays.restrict fun name => config.Reaches dashboard (.display name)
        queries := compiled.queries.restrict fun name => config.Reaches dashboard (.query name)
        widgets := compiled.widgets.restrict fun name => config.Reaches dashboard (.widget name)
        dashboards := compiled.dashboards.restrict (· = dashboard) } := by
  obtain ⟨hfilters, houtputs, hdisplays, hqueries, hwidgets, hdashboards⟩ :=
    ofConfig_eq_ok_iff.1 h
  obtain ⟨filters, hkept, hagree⟩ := Filter.compile_restrict
    (p := fun name => config.Reaches dashboard (.filter name))
    (fun _ _ hname hrefers => hname.leads (.filter hrefers)) hfilters
  have hcomponents : compiled.components.AgreeOn (config.Reaches dashboard)
      ⟨filters, compiled.outputs.restrict _, compiled.displays.restrict _⟩ :=
    ⟨hagree, Table.agreeOn_restrict _, Table.agreeOn_restrict _⟩
  have htables : compiled.placeable.AgreeOn (config.Reaches dashboard)
      ⟨⟨filters, compiled.outputs.restrict _, compiled.displays.restrict _⟩,
        compiled.queries.restrict _, compiled.widgets.restrict _⟩ :=
    ⟨hcomponents, Table.agreeOn_restrict _, Table.agreeOn_restrict _⟩
  refine ⟨filters, hagree, ofConfig_eq_ok_iff.2 ⟨hkept, ?outputs, ?displays, ?queries, ?widgets,
    ?dashboards⟩⟩
  case outputs =>
    refine Table.restrict_of_section (OutputSelection.compile_entries _ _)
      (OutputSelection.compile_entries _ _) houtputs fun name value hname hvalue => ?_
    -- A condition that is not the name of a filter is reached too: the slice must not have it.
    exact OutputSelection.ofValue_congr fun condition hcondition =>
      hagree condition (hname.leads (.output hvalue hcondition))
  case displays =>
    exact Table.restrict_of_section (Display.compile_entries _) (Display.compile_entries _)
      hdisplays fun _ _ _ _ => rfl
  case queries =>
    refine Table.restrict_of_section (Query.compile_entries _ _) (Query.compile_entries _ _)
      hqueries fun name query hname hquery => ?_
    exact Query.ofConfig_congr hcomponents fun entry hentry => hname.leads (.query hquery hentry)
  case widgets =>
    refine Table.restrict_of_section (WidgetDefinition.compile_entries _ _ _)
      (WidgetDefinition.compile_entries _ _ _) hwidgets fun name widget hname hwidget => ?_
    exact WidgetDefinition.ofConfig_congr hcomponents htables.queries
      fun reference hreference entry hentry => hname.leads (.widget hwidget hreference hentry)
  case dashboards =>
    refine Table.restrict_of_section (Dashboard.compile_entries _ _)
      (Dashboard.compile_entries _ _) hdashboards ?_
    rintro name declared rfl hdeclared
    exact Dashboard.ofConfig_congr htables fun placement hplacement entry hentry =>
      ReflTransGen.single (.dashboard hdeclared hplacement hentry)

/-- A configuration that compiles gives each dashboard as its slice for the dashboard does: the
slice compiles, and to this dashboard alone. -/
theorem ofConfig_slice (h : (ofConfig config).result = .ok compiled) {name : String}
    (hname : name ∈ config.dashboards.names) :
    ∃ dashboard sliced, compiled.dashboards.get? name = some dashboard ∧
      (ofConfig (config.slice name)).result = .ok sliced ∧
      sliced.dashboards.entries = [(name, dashboard)] := by
  obtain ⟨declared, hdeclared⟩ := Table.mem_names_iff.1 hname
  have hentries := Dashboard.compile_entries config.dashboards compiled.placeable
  rw [(ofConfig_eq_ok_iff.1 h).2.2.2.2.2] at hentries
  obtain ⟨dashboard, hread⟩ := Table.exists_read_of_get? hentries.symm hdeclared
  have hget := (Table.get?_of_readEntries hentries.symm).2 ⟨declared, hdeclared, hread⟩
  obtain ⟨filters, -, hsliced⟩ := tables_of_slice h name
  exact ⟨dashboard, _, hget, hsliced, Table.entries_restrict_eq hget⟩

/-- The shop with a second dashboard, which has a query and a filter of its own. -/
def mallConfig : Config where
  filters := shopConfig.filters.insert "failed" { event := some "Error", nrql := some "fatal" }
  outputs := shopConfig.outputs
  displays := shopConfig.displays
  queries := shopConfig.queries.insert "failures"
    { title := some "Failures", filter := some "failed", output := some "share",
      display := some "number" }
  widgets := shopConfig.widgets
  dashboards := shopConfig.dashboards.insert "errors"
    { title := some "Errors",
      widgets := [
        { query := some (.named "failures"),
          row := some 1, column := some 1, width := some 12, height := some 3 }] }

/-- The shop does not reach the query of the other dashboard. -/
theorem not_reaches_failures : ¬ mallConfig.Reaches "shop" (.query "failures") := by
  intro h
  rcases h.cases_tail with heq | ⟨entry, hreaches, hleads⟩
  · cases heq
  cases hleads with
  | dashboard hget hplacement hnames =>
    cases Config.Reaches.dashboard_eq hreaches
    have hshop : ∀ placement ∈ (mallConfig.dashboards.get? "shop").elim [] Config.Dashboard.widgets,
        placement.query ≠ some (.named "failures") := by decide
    rw [hget] at hshop
    cases hnames with
    | query hquery hnames =>
      cases Config.QueryReference.names_query_iff.1 hnames
      exact hshop _ hplacement hquery
  | widget hget hquery hnames =>
    rw [Table.get?_eq_some_iff] at hget
    cases List.mem_singleton.1 hget
    cases hquery
    exact absurd (Config.QueryReference.names_query_iff.1 hnames) (by decide)
  | query _ hnames => cases hnames

/-- The slice of the example for the shop leaves out the other dashboard with its query, and
compiles to the dashboard of the shop. -/
theorem ofConfig_slice_shop :
    ∃ compiled sliced, (ofConfig mallConfig).result = .ok compiled ∧
      compiled.dashboards.names = ["shop", "errors"] ∧
      "failures" ∉ (mallConfig.slice "shop").queries.names ∧
      (ofConfig (mallConfig.slice "shop")).result = .ok sliced ∧
      sliced.dashboards.entries = shopDashboards := by
  have hleft : "failures" ∉ (mallConfig.slice "shop").queries.names := by
    classical
    exact fun hmem => not_reaches_failures (Table.mem_names_restrict.1 hmem).1
  have hresult : (ofConfig mallConfig).result.toOption.map (fun compiled =>
      (compiled.dashboards.names, (compiled.dashboards.get? "shop").map ("shop", ·))) =
    some (["shop", "errors"], shopDashboards.head?) := by decide +kernel
  obtain ⟨compiled, h, hcompiled⟩ := exists_ok_of_toOption_map hresult
  obtain ⟨hnames, hshop⟩ := Prod.mk.inj hcompiled
  obtain ⟨dashboard, sliced, hget, hsliced, hentries⟩ :=
    ofConfig_slice h (show "shop" ∈ mallConfig.dashboards.names by decide)
  rw [hget] at hshop
  refine ⟨compiled, sliced, h, hnames, hleft, hsliced, ?_⟩
  rw [hentries]
  exact congrArg (fun entry => [entry]) (Option.some.inj hshop)

end Compiled

end Dashboards
