import Dashboards.Compiled
import Dashboards.Proofs.Document.Views

/-!
# Compiled dashboards are what their configuration means

The stages of a compilation fill one table after the other, and each table is faithful to the
configuration if those before it are (`Compiled.faithful_of_ofConfig`). The dashboards, which see
all of them, are then what the configuration means (`dashboards_eq_evaluation`): every placement
gives one widget, in the order of the placements, with the place that it gives itself and the view
that it leads to.
-/

namespace Dashboards

variable {config : Config} {tables : Placeable}

/-! ## Placements -/

namespace Widget

/-- A field that a placement has to have is there exactly if it is given. -/
theorem required_eq_ok_iff {α : Type} {dashboard field : String} {value : Option α} {found : α} :
    required dashboard field value = .ok found ↔ value = some found := by
  cases value <;> simp [required]

/-- The place of a placement is the one it gives. -/
theorem layoutOf_eq_ok_iff {dashboard : String} {declared : Config.Placement} {layout : Layout} :
    layoutOf dashboard declared = .ok layout ↔ Config.layout? declared = some layout := by
  simp only [layoutOf, bind_eq_ok_iff, pure_eq_ok_iff, required_eq_ok_iff, Config.layout?,
    Option.bind_eq_bind, Option.bind_eq_some_iff, Option.pure_def, Option.some.injEq]

/-- A placement is read exactly if it gives its place and either the name of a reusable widget or a
reference that leads to a query. -/
theorem ofConfig_eq_ok_iff {dashboard : String} {position : Nat} {declared : Config.Placement}
    {widget : Widget} :
    ofConfig dashboard position declared tables = .ok widget ↔
      ∃ layout, Config.layout? declared = some layout ∧
        ((∃ name definition, declared.query = none ∧ declared.widget = some name ∧
          tables.widgets.get? name = some definition ∧ widget = definition.place layout) ∨
        ∃ reference query, declared.query = some reference ∧ declared.widget = none ∧
          Query.ofReference reference s!"{dashboard}-inline-query-{position + 1}" tables.queries
            tables.components (.unknownPlacedQuery · dashboard) = .ok query ∧
          widget = query.place layout) := by
  rw [ofConfig]
  cases hquery : declared.query with
  | none =>
    cases hwidget : declared.widget with
    | none => simp
    | some name =>
      simp only [bind_eq_ok_iff, layoutOf_eq_ok_iff]
      cases hget : tables.widgets.get? name with
      | none => simp [hget]
      | some definition => simp [hget, pure_eq_ok_iff, @eq_comm _ widget]
  | some reference =>
    cases hwidget : declared.widget with
    | some name => simp
    | none =>
      simp only [bind_eq_ok_iff, layoutOf_eq_ok_iff, pure_eq_ok_iff]
      simp [@eq_comm _ widget]

/-- A placement that is read is the widget that it means. -/
theorem widget?_of_ofConfig (h : tables.Faithful config) {dashboard : String} {position : Nat}
    {declared : Config.Placement} {widget : Widget}
    (hread : ofConfig dashboard position declared tables = .ok widget) :
    config.widget? declared = some widget := by
  rw [Config.widget?, Config.placementView?]
  obtain ⟨layout, hlayout, ⟨name, definition, hquery, hwidget, hget, rfl⟩ |
    ⟨reference, query, hquery, hwidget, hreference, rfl⟩⟩ := ofConfig_eq_ok_iff.1 hread
  · have hview := h.widgetView? hget
    simp [hquery, hwidget, hview, hlayout, View.place, WidgetDefinition.view,
      WidgetDefinition.place]
  · have hview := Query.referenceView?_of_ofReference h.components h.queries hreference
    simp [hquery, hwidget, hview, hlayout, View.place, Query.view, Query.place]

/-- The placements of a dashboard are read one by one, each at its position. -/
theorem placeAll_eq_mapM {dashboard : String} {position : Nat} {declared : List Config.Placement} :
    placeAll dashboard tables position declared =
      (declared.zipIdx position).mapM fun placed =>
        ofConfig dashboard placed.2 placed.1 tables := by
  induction declared generalizing position with
  | nil => rfl
  | cons placement rest ih => simp only [placeAll, ih, List.zipIdx_cons, List.mapM_cons]

/-- The placements of a dashboard are read exactly if each is. -/
theorem placeAll_eq_ok_iff {dashboard : String} {position : Nat}
    {declared : List Config.Placement} {widgets : List Widget} :
    placeAll dashboard tables position declared = .ok widgets ↔
      List.Forall₂ (fun placed widget =>
        ofConfig dashboard placed.2 placed.1 tables = .ok widget)
        (declared.zipIdx position) widgets := by
  rw [placeAll_eq_mapM]
  exact mapM_eq_ok_iff

/-- The placements of a dashboard that is read are the widgets that they mean. -/
theorem mapM_widget?_of_placeAll (h : tables.Faithful config) {dashboard : String} {position : Nat}
    {declared : List Config.Placement} {widgets : List Widget}
    (hread : placeAll dashboard tables position declared = .ok widgets) :
    declared.mapM config.widget? = some widgets := by
  have hplaced : List.Forall₂ (fun placement widget => config.widget? placement = some widget)
      ((declared.zipIdx position).map Prod.fst) widgets :=
    List.forall₂_map_left_iff.2 <|
      (placeAll_eq_ok_iff.1 hread).imp fun _ _ hwidget => widget?_of_ofConfig h hwidget
  rw [List.zipIdx_map_fst] at hplaced
  exact mapM_eq_some_iff.2 hplaced

end Widget

/-! ## Dashboards -/

namespace Dashboard

/-- A dashboard is read exactly if it has a title and its placements are read. -/
theorem ofConfig_eq_ok_iff {name : String} {declared : Config.Dashboard}
    {dashboard : Dashboard} :
    ofConfig name declared tables = .ok dashboard ↔
      ∃ title widgets, declared.title = some title ∧
        Widget.placeAll name tables 0 declared.widgets = .ok widgets ∧
        dashboard = ⟨name, title, widgets⟩ := by
  rw [ofConfig]
  cases declared.title with
  | none => simp
  | some title =>
    simp only [bind_eq_ok_iff, pure_eq_ok_iff, Option.some.injEq]
    constructor
    · rintro ⟨widgets, hwidgets, rfl⟩
      exact ⟨title, widgets, rfl, hwidgets, rfl⟩
    · rintro ⟨_, widgets, rfl, hwidgets, rfl⟩
      exact ⟨widgets, hwidgets, rfl⟩

/-- A dashboard that is read is what it declares. -/
theorem dashboard?_of_ofConfig (h : tables.Faithful config) {name : String}
    {declared : Config.Dashboard} {dashboard : Dashboard}
    (hread : ofConfig name declared tables = .ok dashboard) :
    config.dashboard? name declared = some dashboard := by
  obtain ⟨title, widgets, htitle, hwidgets, rfl⟩ := ofConfig_eq_ok_iff.1 hread
  simp [Config.dashboard?, htitle, Widget.mapM_widget?_of_placeAll h hwidgets]

/-- The table of dashboards holds what is read of each declaration. -/
theorem compile_entries (configs : Table Config.Dashboard) (tables : Placeable) :
    (compile configs tables).result.map Table.entries =
      readEntries (fun name config => ofConfig name config tables) configs.entries := by
  refine entries_of_section (fun entries table => (addAll tables entries table).result)
    (fun _ => rfl) (fun name config rest table => ?_) configs
  simp only [addAll, Traced.result_bind, Traced.result_lift, Traced.result_debug, Except.bind]

/-- Dashboards that compile with faithful tables are those that the configuration means. -/
theorem dashboards?_of_compile (h : tables.Faithful config) {dashboards : DashboardTable}
    (hcompile : (compile config.dashboards tables).result = .ok dashboards) :
    config.dashboards? = some dashboards.entries := by
  have hentries := compile_entries config.dashboards tables
  rw [hcompile] at hentries
  refine mapM_eq_some_iff.2 ((readEntries_eq_ok_iff.1 hentries.symm).imp ?_)
  rintro ⟨name, declared⟩ ⟨name', dashboard⟩ ⟨hname, hread⟩
  cases hname
  simp [dashboard?_of_ofConfig h hread]

end Dashboard

/-! ## Documents -/

namespace Compiled

/-- Two stages succeed when the first does and the second succeeds on its result. -/
theorem result_bind_eq_ok_iff {ε α β : Type} {x : Traced ε α} {f : α → Traced ε β} {b : β} :
    (x >>= f).result = .ok b ↔ ∃ a, x.result = .ok a ∧ (f a).result = .ok b := by
  rw [Traced.result_bind]
  exact bind_eq_ok_iff

/-- A configuration compiles exactly if each of its stages does on the tables before it. -/
theorem ofConfig_eq_ok_iff {compiled : Compiled} :
    (ofConfig config).result = .ok compiled ↔
      (Filter.compile config.filters).result = .ok compiled.filters ∧
      (OutputSelection.compile config.outputs compiled.filters).result = .ok compiled.outputs ∧
      Display.compile config.displays = .ok compiled.displays ∧
      (Query.compile config.queries compiled.components).result = .ok compiled.queries ∧
      WidgetDefinition.compile config.widgets compiled.queries compiled.components =
        .ok compiled.widgets ∧
      (Dashboard.compile config.dashboards compiled.placeable).result =
        .ok compiled.dashboards := by
  simp only [ofConfig, withFilters, withOutputs, withDisplays, withQueries, withWidgets,
    withDashboards, result_bind_eq_ok_iff, Traced.result_pure, Traced.result_lift,
    Traced.result_debug]
  constructor
  · rintro ⟨_, ⟨filters, hfilters, ⟨⟩⟩, _, ⟨outputs, houtputs, ⟨⟩⟩, _, ⟨displays, hdisplays, ⟨⟩⟩, _,
      ⟨queries, hqueries, ⟨⟩⟩, _, ⟨widgets, hwidgets, ⟨⟩⟩, _, ⟨dashboards, hdashboards, ⟨⟩⟩, _, -,
      ⟨⟩⟩
    exact ⟨hfilters, houtputs, hdisplays, hqueries, hwidgets, hdashboards⟩
  · rintro ⟨hfilters, houtputs, hdisplays, hqueries, hwidgets, hdashboards⟩
    exact ⟨_, ⟨_, hfilters, rfl⟩, _, ⟨_, houtputs, rfl⟩, _, ⟨_, hdisplays, rfl⟩, _,
      ⟨_, hqueries, rfl⟩, _, ⟨_, hwidgets, rfl⟩, _, ⟨_, hdashboards, rfl⟩, (), trivial, rfl⟩

/-- The tables that a configuration compiles to hold what it means. -/
theorem faithful_of_ofConfig {compiled : Compiled} (h : (ofConfig config).result = .ok compiled) :
    compiled.placeable.Faithful config := by
  obtain ⟨hfilters, houtputs, hdisplays, hqueries, hwidgets, -⟩ := ofConfig_eq_ok_iff.1 h
  exact Placeable.faithful_of_compile
    (Components.faithful_of_compile hfilters houtputs hdisplays) hqueries hwidgets

/-- The dashboards that a configuration compiles to are those that it means: the declared ones in
their order. -/
theorem dashboards_eq_evaluation {compiled : Compiled}
    (h : (ofConfig config).result = .ok compiled) :
    config.dashboards? = some compiled.dashboards.entries :=
  Dashboard.dashboards?_of_compile (faithful_of_ofConfig h) (ofConfig_eq_ok_iff.1 h).2.2.2.2.2

/-- A dashboard with a query that restricts nothing, a reusable widget with a title of its own, and
a query in place. -/
def shopConfig : Config where
  filters := Table.ofList [
    ("paid", { and := some [.mapping [(.text "filter", .text "all")], .text " amount > 0 "] }),
    ("all", { event := some "Transaction" })]
  outputs := Table.ofList [
    ("count", .text "count(*)"),
    ("share", .sequence [.text "count(*)", .mapping [(.text "percentage", .mapping [
      (.text "function", .text "count(*)"), (.text "condition", .text "paid"),
      (.text "label", .text " paid ")])]])]
  displays := Table.ofList [
    ("number", { visualization := some "Billboard", nrql := some " " }),
    ("daily", { visualization := some "line_chart", nrql := some "TIMESERIES 1 day" })]
  queries := Table.ofList [
    ("total",
      { title := some "Total", notes := some "All of them", filter := some "all",
        output := some "count", display := some "number" }),
    ("paid",
      { title := some "Paid", filter := some "paid", output := some "share",
        display := some "daily" })]
  widgets := Table.ofList [
    ("paid",
      { query := some (.named "paid"), title := some "Paid per day", notes := some "By day" })]
  dashboards := Table.ofList [
    ("shop",
      { title := some "Shop",
        widgets := [
          { query := some (.named "total"),
            row := some 1, column := some 1, width := some 4, height := some 3 },
          { widget := some "paid",
            row := some 1, column := some 5, width := some 8, height := some 3 },
          { query := some (.inline
              { title := some "Errors", nrql := some " SELECT 1 ",
                visualization := some "markdown" }),
            row := some 4, column := some 1, width := some 12, height := some 2 }] })]

/-- The dashboards of the example, evaluated by hand. -/
def shopDashboards : List (String × Dashboard) :=
  [("shop", ⟨"shop", "Shop", [
    ⟨"Total", "SELECT count(*) FROM Transaction", .billboard, ⟨1, 1, 4, 3⟩, some "All of them"⟩,
    ⟨"Paid per day",
      "SELECT count(*), PERCENTAGE(count(*), WHERE (amount > 0)) AS \x60paid\x60" ++
        " FROM Transaction WHERE (amount > 0) TIMESERIES 1 day",
      .lineChart, ⟨1, 5, 8, 3⟩, some "By day"⟩,
    ⟨"Errors", "SELECT 1", .markdown, ⟨4, 1, 12, 2⟩, none⟩]⟩)]

/-- The example compiles, to these dashboards and to what it means. -/
theorem dashboards_eq_evaluation_shop :
    ∃ compiled, (ofConfig shopConfig).result = .ok compiled ∧
      compiled.dashboards.entries = shopDashboards ∧
      shopConfig.dashboards? = some compiled.dashboards.entries := by
  have hentries : (ofConfig shopConfig).result.toOption.map (·.dashboards.entries) =
    some shopDashboards := by decide +kernel
  cases hresult : (ofConfig shopConfig).result with
  | error e =>
    rw [hresult] at hentries
    cases hentries
  | ok compiled =>
    rw [hresult] at hentries
    exact ⟨compiled, rfl, Option.some.inj hentries, dashboards_eq_evaluation hresult⟩

end Compiled

end Dashboards
