import Dashboards.Proofs.Document.Dashboards

/-!
# Where queries are written

A query is written as an entry of its own, in a reusable widget, or in a placement on a dashboard
(`Config.QuerySite`). If a configuration compiles, every query that is written in it compiles
(`exists_queryAt?`), and every widget on a dashboard shows one of them: a query of its own, that of
a reusable widget, or the one that is written in this very placement (`exists_site_of_widget`).
-/

namespace Dashboards

namespace Config

/-- The query that a reference writes in place. -/
def QueryReference.inline? : QueryReference → Option Query
  | .named _ => none
  | .inline query => some query

/-- A place in a configuration where a query may be written. -/
inductive QuerySite where
  /-- An entry of its own. -/
  | own (name : String)
  /-- The query of a reusable widget. -/
  | widget (name : String)
  /-- The query of the placement at a position on a dashboard. -/
  | placement (dashboard : String) (position : Nat)
deriving DecidableEq

/-- The name that a query gets from its place. -/
def QuerySite.name : QuerySite → String
  | own name => name
  | widget name => name ++ "-inline-query"
  | placement dashboard position => s!"{dashboard}-inline-query-{position + 1}"

/-- The query that is written in a place. -/
def queryAt? (config : Config) : QuerySite → Option Query
  | .own name => config.queries.get? name
  | .widget name => do
    let widget ← config.widgets.get? name
    (← widget.query).inline?
  | .placement dashboard position => do
    let placement ← (← config.dashboards.get? dashboard).widgets[position]?
    (← placement.query).inline?

end Config

variable {config : Config} {components : Components} {queries : QueryTable} {tables : Placeable}

/-! ## What a widget is read from -/

/-- A reference that writes a query in place leads to this query. -/
theorem Query.ofReference_inline {reference : Config.QueryReference} {declared : Config.Query}
    (h : reference.inline? = some declared) (placeName : String)
    (unknown : String → WidgetFault) :
    ofReference reference placeName queries components unknown =
      ofConfig placeName declared components := by
  cases reference with
  | named name => cases h
  | inline query =>
    cases h
    rfl

/-- The query that a reference leads to is that of its name, or the one that it writes in place. -/
theorem Query.ofReference_cases {reference : Config.QueryReference} {placeName : String}
    {unknown : String → WidgetFault} {query : Query}
    (h : ofReference reference placeName queries components unknown = .ok query) :
    (∃ name, reference = .named name ∧ queries.get? name = some query) ∨
      ∃ declared, reference.inline? = some declared ∧
        ofConfig placeName declared components = .ok query := by
  cases reference with
  | inline declared => exact .inr ⟨declared, rfl, h⟩
  | named name => exact .inl ⟨name, rfl, ofReference_named_eq_ok_iff.1 h⟩

namespace Widget

/-- The widgets of a dashboard are those of its placements, position by position. -/
theorem placeAll_getElem {dashboard : String} {declared : List Config.Placement}
    {widgets : List Widget} (h : placeAll dashboard tables 0 declared = .ok widgets) :
    declared.length = widgets.length ∧
      ∀ position (hplacement : position < declared.length) (hwidget : position < widgets.length),
        ofConfig dashboard position declared[position] tables = .ok widgets[position] := by
  obtain ⟨hlength, hread⟩ := List.forall₂_iff_get.1 (placeAll_eq_ok_iff.1 h)
  rw [List.length_zipIdx] at hlength
  refine ⟨hlength, fun position hplacement hwidget => ?_⟩
  simpa using hread position (by simpa using hplacement) hwidget

end Widget

/-! ## Queries of a compiled configuration -/

namespace Compiled

variable {compiled : Compiled} {site : Config.QuerySite}

/-- The compiled query that is written in a place. -/
def queryAt? (config : Config) (compiled : Compiled) (site : Config.QuerySite) : Option Query := do
  (Query.ofConfig site.name (← config.queryAt? site) compiled.components).toOption

/-- A compiled query is what is read of a query that is written. -/
theorem queryAt?_eq_some_iff {query : Query} :
    compiled.queryAt? config site = some query ↔
      ∃ declared, config.queryAt? site = some declared ∧
        Query.ofConfig site.name declared compiled.components = .ok query := by
  simp only [queryAt?, Option.bind_eq_bind, Option.bind_eq_some_iff, toOption_eq_some_iff]

/-- The table of queries holds the compiled queries that are entries of their own. -/
theorem queryAt?_own (h : (ofConfig config).result = .ok compiled) (name : String) :
    compiled.queryAt? config (.own name) = compiled.queries.get? name := by
  have hqueries := (ofConfig_eq_ok_iff.1 h).2.2.2.1
  refine Option.ext fun query => ?_
  rw [queryAt?_eq_some_iff]
  constructor
  · rintro ⟨declared, hdeclared, hread⟩
    obtain ⟨record, hget, hrecord⟩ :=
      Table.exists_record_of_get? (Query.compile_entries _ _) hqueries hdeclared
    cases hread.symm.trans hrecord
    exact hget
  · exact Table.exists_declared_of_get? (Query.compile_entries _ _) hqueries

/-- In a configuration that compiles every query that is written compiles. -/
theorem exists_queryAt? (h : (ofConfig config).result = .ok compiled) {declared : Config.Query}
    (hdeclared : config.queryAt? site = some declared) :
    ∃ query, compiled.queryAt? config site = some query := by
  obtain ⟨-, -, -, hqueries, hwidgets, hdashboards⟩ := ofConfig_eq_ok_iff.1 h
  suffices hread : ∃ query, Query.ofConfig site.name declared compiled.components = .ok query by
    obtain ⟨query, hquery⟩ := hread
    exact ⟨query, queryAt?_eq_some_iff.2 ⟨declared, hdeclared, hquery⟩⟩
  cases site with
  | own name =>
    obtain ⟨query, -, hread⟩ :=
      Table.exists_record_of_get? (Query.compile_entries _ _) hqueries hdeclared
    exact ⟨query, hread⟩
  | widget name =>
    simp only [Config.queryAt?, Option.bind_eq_bind, Option.bind_eq_some_iff] at hdeclared
    obtain ⟨widget, hwidget, reference, hreference, hinline⟩ := hdeclared
    obtain ⟨definition, -, hread⟩ :=
      Table.exists_record_of_get? (WidgetDefinition.compile_entries _ _ _) hwidgets hwidget
    obtain ⟨reference', query, hreference', hquery, -⟩ :=
      WidgetDefinition.ofConfig_eq_ok_iff.1 hread
    cases hreference.symm.trans hreference'
    rw [Query.ofReference_inline hinline] at hquery
    exact ⟨query, hquery⟩
  | placement name position =>
    simp only [Config.queryAt?, Option.bind_eq_bind, Option.bind_eq_some_iff] at hdeclared
    obtain ⟨board, hboard, placement, hplacement, reference, hreference, hinline⟩ := hdeclared
    obtain ⟨dashboard, -, hread⟩ :=
      Table.exists_record_of_get? (Dashboard.compile_entries _ _) hdashboards hboard
    obtain ⟨title, widgets, -, hplaced, -⟩ := Dashboard.ofConfig_eq_ok_iff.1 hread
    obtain ⟨hlength, hplaced⟩ := Widget.placeAll_getElem hplaced
    obtain ⟨hposition, rfl⟩ := List.getElem?_eq_some_iff.1 hplacement
    have hwidget := hplaced position hposition (hlength ▸ hposition)
    -- A placement with a reference is not read as that of a reusable widget.
    obtain ⟨-, -, ⟨_, _, hnone, -⟩ | ⟨reference', query, hreference', -, hquery, -⟩⟩ :=
      Widget.ofConfig_eq_ok_iff.1 hwidget
    · cases hreference.symm.trans hnone
    · cases hreference.symm.trans hreference'
      rw [Query.ofReference_inline hinline] at hquery
      exact ⟨query, hquery⟩

/-- What a reference leads to, if it stands in a place, is a compiled query of its own or of that
place. -/
theorem exists_site_of_reference (h : (ofConfig config).result = .ok compiled)
    {reference : Config.QueryReference} {unknown : String → WidgetFault} {query : Query}
    (hplace : ∀ declared, reference.inline? = some declared →
      config.queryAt? site = some declared)
    (hquery : Query.ofReference reference site.name compiled.queries compiled.components unknown =
      .ok query) :
    ∃ found, compiled.queryAt? config found = some query ∧
      ((∃ name, found = .own name) ∨ found = site) := by
  obtain ⟨name, -, hget⟩ | ⟨declared, hinline, hread⟩ := Query.ofReference_cases hquery
  · exact ⟨.own name, (queryAt?_own h name).trans hget, .inl ⟨name, rfl⟩⟩
  · exact ⟨site, queryAt?_eq_some_iff.2 ⟨declared, hplace declared hinline, hread⟩, .inr rfl⟩

/-- A reusable widget shows a compiled query: one of its own, or the one that is written in it. -/
theorem exists_site_of_definition (h : (ofConfig config).result = .ok compiled) {name : String}
    {definition : WidgetDefinition} (hget : compiled.widgets.get? name = some definition) :
    ∃ site query, compiled.queryAt? config site = some query ∧
      ((∃ name, site = .own name) ∨ site = .widget name) ∧
      definition.query = query.text ∧ definition.visualization = query.visualization := by
  obtain ⟨declared, hdeclared, hread⟩ := Table.exists_declared_of_get?
    (WidgetDefinition.compile_entries _ _ _) (ofConfig_eq_ok_iff.1 h).2.2.2.2.1 hget
  obtain ⟨reference, query, hreference, hquery, rfl⟩ :=
    WidgetDefinition.ofConfig_eq_ok_iff.1 hread
  have hplace : ∀ written, reference.inline? = some written →
      config.queryAt? (.widget name) = some written := by
    intro written hinline
    simp [Config.queryAt?, hdeclared, hreference, hinline]
  obtain ⟨site, hfound, hsite⟩ := exists_site_of_reference h hplace hquery
  exact ⟨site, query, hfound, hsite, rfl, rfl⟩

/-- A widget on a dashboard shows a compiled query: one of its own, one that is written in a
reusable widget, or the one that is written in the placement of this widget. -/
theorem exists_site_of_widget (h : (ofConfig config).result = .ok compiled) {name : String}
    {dashboard : Dashboard} (hget : compiled.dashboards.get? name = some dashboard)
    {position : Nat} {widget : Widget} (hwidget : dashboard.widgets[position]? = some widget) :
    ∃ site query, compiled.queryAt? config site = some query ∧
      ((∃ name, site = .own name ∨ site = .widget name) ∨ site = .placement name position) ∧
      widget.query = query.text ∧ widget.visualization = query.visualization := by
  obtain ⟨declared, hdeclared, hread⟩ := Table.exists_declared_of_get?
    (Dashboard.compile_entries _ _) (ofConfig_eq_ok_iff.1 h).2.2.2.2.2 hget
  obtain ⟨title, widgets, -, hplaced, rfl⟩ := Dashboard.ofConfig_eq_ok_iff.1 hread
  obtain ⟨hlength, hplaced⟩ := Widget.placeAll_getElem hplaced
  obtain ⟨hposition, rfl⟩ := List.getElem?_eq_some_iff.1 hwidget
  have hposition' : position < declared.widgets.length := hlength ▸ hposition
  obtain ⟨layout, -, ⟨_, definition, -, -, hdefinition, heq⟩ |
    ⟨reference, query, hreference, -, hquery, heq⟩⟩ :=
      Widget.ofConfig_eq_ok_iff.1 (hplaced position hposition' hposition)
  · obtain ⟨site, query, hfound, hsite, htext, hvisualization⟩ :=
      exists_site_of_definition h hdefinition
    rw [heq]
    refine ⟨site, query, hfound, .inl ?_, htext, hvisualization⟩
    rcases hsite with ⟨name, rfl⟩ | rfl
    · exact ⟨name, .inl rfl⟩
    · exact ⟨_, .inr rfl⟩
  · have hplace : ∀ written, reference.inline? = some written →
        config.queryAt? (.placement name position) = some written := by
      intro written hinline
      simp [Config.queryAt?, hdeclared, hposition', hreference, hinline]
    obtain ⟨site, hfound, hsite⟩ := exists_site_of_reference h hplace hquery
    rw [heq]
    refine ⟨site, query, hfound, ?_, rfl, rfl⟩
    rcases hsite with ⟨name, rfl⟩ | rfl
    · exact .inl ⟨name, .inl rfl⟩
    · exact .inr rfl

end Compiled

end Dashboards
