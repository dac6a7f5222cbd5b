import Dashboards.Proofs.Document.Declared
import Dashboards.Proofs.Document.Sites

/-!
# Compiled documents are closed and normalized

Whatever a document declares, the tables that it compiles to are in one form
(`Compiled.Normalized`). Records stand under their own names, in the order of declaration; texts are
trimmed and not empty where they may be absent; queries hold the records of the tables that they
name, and widgets show queries of the document. The texts of filters are so after every pass of
their resolution (`Pass.holdsNormal`): what a pass joins is trimmed as it stands, and an event is
passed on from a filter that is in the table already.
-/

namespace Dashboards

/-! ## Texts and tables -/

/-- A text that is trimmed and not empty. -/
structure Text.Normal (text : String) : Prop where
  trimmed : Text.trim text = text
  nonempty : text ≠ ""

/-- What is left of a text that is not blank is normal. -/
theorem Text.normal_of_nonBlank? {text left : String} (h : nonBlank? text = some left) :
    Normal left := by
  rw [nonBlank?_eq, Option.ite_none_left_eq_some] at h
  obtain ⟨hne, hleft⟩ := h
  cases hleft
  exact ⟨trim_trim text, hne⟩

/-- What is left of a text that may be absent is normal. -/
theorem Text.normal_of_bind_nonBlank? {text : Option String} {left : String}
    (h : text.bind nonBlank? = some left) : Normal left := by
  obtain ⟨written, -, hleft⟩ := Option.bind_eq_some_iff.1 h
  exact normal_of_nonBlank? hleft

/-- The records of a table stand under their own names. -/
def Table.KeyedBy {α : Type} (table : Table α) (name : α → String) : Prop :=
  ∀ key record, table.get? key = some record → name record = key

/-- The records of a section stand under their own names if they are read so. -/
theorem Table.keyedBy_of_section {ε α β : Type} {read : String → α → Except ε β}
    {configs : Table α} {table : Table β} {outcome : Except ε (Table β)} {name : β → String}
    (hentries : outcome.map entries = readEntries read configs.entries) (h : outcome = .ok table)
    (hread : ∀ key config record, read key config = .ok record → name record = key) :
    table.KeyedBy name := by
  intro key record hget
  obtain ⟨config, -, hrecord⟩ := exists_declared_of_get? hentries h hget
  exact hread key config record hrecord

/-! ## Filters -/

namespace Filter

/-- A filter with a normal event, and a normal text if it has any. -/
structure Normal (filter : Filter) : Prop where
  event : Text.Normal filter.event
  nrql : ∀ nrql, filter.nrql = some nrql → Text.Normal nrql

/-- A base filter that is read is normal. -/
theorem normal_of_ofBase {name : String} {config : Config.Filter} {filter : Filter}
    (h : ofBase name config = .ok filter) : filter.Normal := by
  rw [ofBase] at h
  cases hevent : config.event.bind Text.nonBlank? with
  | none =>
    rw [hevent] at h
    cases h
  | some event =>
    rw [hevent] at h
    cases h
    exact ⟨Text.normal_of_bind_nonBlank? hevent, fun _ => Text.normal_of_bind_nonBlank?⟩

/-- An extending filter resolves to a normal filter if the filters in the table are normal. -/
theorem normal_of_resolve {filter : ExtendingFilter} {resolved : FilterTable} {result : Filter}
    (h : filter.resolve resolved = .ok result)
    (hresolved : ∀ name target, resolved.get? name = some target → target.Normal) :
    result.Normal := by
  obtain ⟨first, rest, htargets, rfl⟩ := ExtendingFilter.resolve_eq_ok_iff.1 h
  refine ⟨?_, fun nrql hnrql => ?_⟩
  · obtain ⟨name, -, hfirst⟩ := forall₂_exists_of_mem_right htargets (List.mem_cons_self ..)
    exact (hresolved name first hfirst).event
  · rw [← ExtendingFilter.joinedText?_bind_nonBlank?] at hnrql
    exact Text.normal_of_bind_nonBlank? hnrql

/-- The filters in the table are normal. -/
def Progress.HoldsNormal (s : Progress) : Prop :=
  ∀ name filter, s.resolved.get? name = some filter → filter.Normal

variable {configs : Table Config.Filter} {results : List (String × (Filter ⊕ ExtendingFilter))}
  {s t : Progress}

/-- A run starts with normal filters in the table. -/
theorem Starts.holdsNormal (hs : Starts results s)
    (h : readEntries readEntry configs.entries = .ok results) : s.HoldsNormal := by
  intro name filter hget
  rw [Table.get?_eq_some_iff, hs.resolved, mem_baseEntries_iff] at hget
  obtain ⟨config, -, hread⟩ := Table.get?_of_mem_readEntries h hget
  exact normal_of_ofBase (readEntry_eq_inl_iff.1 hread).2

/-- A pass puts normal filters into the table. -/
theorem Pass.holdsNormal (h : Pass s t) (hproper : s.Proper) (hs : s.HoldsNormal) :
    t.HoldsNormal := by
  intro name result hget
  rcases h.get?_cases hproper hget with hold | ⟨filter, -, -, hresolve⟩
  · exact hs name result hold
  · exact normal_of_resolve hresolve hs

/-- Compiled filters are normal. -/
theorem normal_of_compile {resolved : FilterTable} (h : (compile configs).result = .ok resolved) :
    ∀ name filter, resolved.get? name = some filter → filter.Normal := by
  obtain ⟨results, n, s, t, hread, hs, hpasses, -, rfl⟩ := run_of_compile h
  exact (hpasses.invariant (fun _ _ hproper hs hpass => hpass.holdsNormal hproper hs)
    (hs.proper hread) (hs.holdsNormal hread)).2

end Filter

/-! ## Queries -/

/-- The parts of a query are those that its declaration names: each is the record of a table under
the name that is given, and the event is that of the condition if there is one. -/
structure ComponentQuery.DrawnFrom (components : Components) (declared : Config.Query)
    (parts : ComponentQuery) : Prop where
  condition : declared.filter.map components.filters.get? = parts.condition.map some
  output : declared.output.bind components.outputs.get? = some parts.output
  display : declared.display.bind components.displays.get? = some parts.display
  event : ∀ filter, parts.condition = some filter → parts.event = filter.event

namespace Query

variable {components : Components} {name : String} {declared : Config.Query} {query : Query}

/-- A compiled query has the name that it is compiled under. -/
theorem name_of_ofConfig (h : ofConfig name declared components = .ok query) :
    query.name = name := by
  rw [ofConfig] at h
  split at h
  · obtain ⟨_, _, _, _, -, -, -, -, -, rfl⟩ := compileInline_eq_ok_iff.1 h
    rfl
  · obtain ⟨_, _, _, _, _, _, _, -, -, -, -, -, -, -, -, -, rfl⟩ := compileComponents_eq_ok_iff.1 h
    rfl

/-- The event of a query with a condition is that of the condition: one of its own has to agree. -/
theorem event_eq_of_eventOf {event : Option String} {filter : Filter} {result : String}
    (h : eventOf name event (some filter) = .ok result) : result = filter.event := by
  cases event with
  | none =>
    cases h
    rfl
  | some event =>
    simp only [eventOf, Option.map_some] at h
    split at h
    · next heq =>
      cases h
      exact heq
    · cases h

/-- A query that is put together from components has those that its declaration names. -/
theorem drawnFrom_of_ofConfig (h : ofConfig name declared components = .ok query)
    {parts : ComponentQuery} (hparts : query.source = .components parts) :
    parts.DrawnFrom components declared := by
  rw [ofConfig] at h
  split at h
  · obtain ⟨_, _, _, _, -, -, -, -, -, rfl⟩ := compileInline_eq_ok_iff.1 h
    cases hparts
  · obtain ⟨title, outputName, displayName, condition, output, display, event, -, -, houtputName,
      hdisplayName, -, hcondition, houtput, hdisplay, hevent, rfl⟩ :=
      compileComponents_eq_ok_iff.1 h
    cases hparts
    refine ⟨?_, by simp [houtputName, houtput], by simp [hdisplayName, hdisplay], ?_⟩
    · cases hfilter : declared.filter with
      | none =>
        rw [hfilter] at hcondition
        cases hcondition
        rfl
      | some filter =>
        rw [hfilter] at hcondition
        obtain ⟨record, hrecord, hresult⟩ := bind_eq_ok_iff.1 hcondition
        cases hresult
        simpa using component_eq_ok_iff.1 hrecord
    · rintro filter rfl
      exact event_eq_of_eventOf hevent

end Query

/-! ## Documents -/

namespace Compiled

/-- The form that compiled documents are in. -/
structure Normalized (config : Config) (compiled : Compiled) : Prop where
  /-- Records stand under their own names. -/
  filters_keyed : compiled.filters.KeyedBy Filter.name
  outputs_keyed : compiled.outputs.KeyedBy OutputSelection.name
  displays_keyed : compiled.displays.KeyedBy Display.name
  queries_keyed : compiled.queries.KeyedBy Query.name
  widgets_keyed : compiled.widgets.KeyedBy WidgetDefinition.name
  dashboards_keyed : compiled.dashboards.KeyedBy Dashboard.name
  /-- The names are the declared ones. Only filters may be in another order. -/
  filters_names : compiled.filters.names.Perm config.filters.names
  outputs_names : compiled.outputs.names = config.outputs.names
  displays_names : compiled.displays.names = config.displays.names
  queries_names : compiled.queries.names = config.queries.names
  widgets_names : compiled.widgets.names = config.widgets.names
  dashboards_names : compiled.dashboards.names = config.dashboards.names
  /-- The texts of components are normal, and output selections start with their keyword. -/
  filters_normal : ∀ name filter, compiled.filters.get? name = some filter → filter.Normal
  displays_normal : ∀ name display, compiled.displays.get? name = some display →
    ∀ nrql, display.nrql = some nrql → Text.Normal nrql
  outputs_select : ∀ name output, compiled.outputs.get? name = some output →
    ∃ selection, output.nrql = "SELECT " ++ selection
  /-- Every query that is written is compiled, and the table holds those of their own. -/
  queries_compiled : ∀ site declared, config.queryAt? site = some declared →
    ∃ query, compiled.queryAt? config site = some query
  queries_own : ∀ name, compiled.queryAt? config (.own name) = compiled.queries.get? name
  /-- The parts of a query are those that it names. -/
  queries_drawn : ∀ site declared query parts, config.queryAt? site = some declared →
    compiled.queryAt? config site = some query → query.source = .components parts →
    parts.DrawnFrom compiled.components declared
  /-- A widget shows a query of the table, one that is written in a reusable widget, or the one that
  is written in its placement. -/
  widgets_show : ∀ name dashboard, compiled.dashboards.get? name = some dashboard →
    ∀ (position : Nat) widget, dashboard.widgets[position]? = some widget →
    ∃ site query, compiled.queryAt? config site = some query ∧
      ((∃ name, site = .own name ∨ site = .widget name) ∨ site = .placement name position) ∧
      widget.query = query.text ∧ widget.visualization = query.visualization

variable {config : Config} {compiled : Compiled}

/-- A configuration that compiles does so in normalized form. -/
theorem normalized_of_ofConfig (h : (ofConfig config).result = .ok compiled) :
    compiled.Normalized config := by
  obtain ⟨hfilters, houtputs, hdisplays, hqueries, hwidgets, hdashboards⟩ :=
    ofConfig_eq_ok_iff.1 h
  have houtputEntries := OutputSelection.compile_entries config.outputs compiled.filters
  have hdisplayEntries := Display.compile_entries config.displays
  have hqueryEntries := Query.compile_entries config.queries compiled.components
  have hwidgetEntries :=
    WidgetDefinition.compile_entries config.widgets compiled.queries compiled.components
  have hdashboardEntries := Dashboard.compile_entries config.dashboards compiled.placeable
  refine {
    filters_keyed := ?filters
    outputs_keyed := Table.keyedBy_of_section houtputEntries houtputs ?outputs
    displays_keyed := Table.keyedBy_of_section hdisplayEntries hdisplays ?displays
    queries_keyed := Table.keyedBy_of_section hqueryEntries hqueries
      fun _ _ _ hread => Query.name_of_ofConfig hread
    widgets_keyed := Table.keyedBy_of_section hwidgetEntries hwidgets ?widgets
    dashboards_keyed := Table.keyedBy_of_section hdashboardEntries hdashboards ?dashboards
    filters_names := Filter.names_perm_of_compile hfilters
    outputs_names := Table.names_of_section houtputEntries houtputs
    displays_names := Table.names_of_section hdisplayEntries hdisplays
    queries_names := Table.names_of_section hqueryEntries hqueries
    widgets_names := Table.names_of_section hwidgetEntries hwidgets
    dashboards_names := Table.names_of_section hdashboardEntries hdashboards
    filters_normal := Filter.normal_of_compile hfilters
    displays_normal := ?normal
    outputs_select := ?select
    queries_compiled := fun _ _ hdeclared => exists_queryAt? h hdeclared
    queries_own := queryAt?_own h
    queries_drawn := ?drawn
    widgets_show := fun _ _ hget _ _ hwidget => exists_site_of_widget h hget hwidget }
  case filters =>
    intro key filter hget
    obtain ⟨reading, -, rfl⟩ := Filter.reading?_of_get? hfilters hget
    rfl
  case outputs =>
    intro key value output hread
    obtain ⟨_, -, rfl⟩ := OutputSelection.ofValue_eq_ok_iff.1 hread
    rfl
  case displays =>
    intro key declared display hread
    obtain ⟨_, _, -, -, rfl⟩ := Display.ofConfig_eq_ok_iff.1 hread
    rfl
  case widgets =>
    intro key declared definition hread
    obtain ⟨_, _, -, -, rfl⟩ := WidgetDefinition.ofConfig_eq_ok_iff.1 hread
    rfl
  case dashboards =>
    intro key declared dashboard hread
    obtain ⟨_, _, -, -, rfl⟩ := Dashboard.ofConfig_eq_ok_iff.1 hread
    rfl
  case normal =>
    intro name display hget nrql hnrql
    obtain ⟨declared, -, hread⟩ := Table.exists_declared_of_get? hdisplayEntries hdisplays hget
    obtain ⟨_, _, -, -, rfl⟩ := Display.ofConfig_eq_ok_iff.1 hread
    exact Text.normal_of_bind_nonBlank? hnrql
  case select =>
    intro name output hget
    obtain ⟨value, -, hread⟩ := Table.exists_declared_of_get? houtputEntries houtputs hget
    obtain ⟨components, -, rfl⟩ := OutputSelection.ofValue_eq_ok_iff.1 hread
    exact ⟨_, rfl⟩
  case drawn =>
    intro site declared query parts hdeclared hquery hparts
    obtain ⟨declared', hdeclared', hread⟩ := queryAt?_eq_some_iff.1 hquery
    cases hdeclared.symm.trans hdeclared'
    exact Query.drawnFrom_of_ofConfig hread hparts

/-- Every document that compiles does so in normalized form. -/
theorem normalized_of_ofText {text : String} (h : (ofText text).result = .ok compiled) :
    ∃ config, Config.declared? text = some config ∧ compiled.Normalized config := by
  obtain ⟨config, hconfig, hcompiled⟩ := exists_declared_of_ofText h
  exact ⟨config, hconfig, normalized_of_ofConfig hcompiled⟩

/-- A document with white space around its texts, and with a filter before the one that it
extends. -/
def spacedText : String := "filters:
  paid:
    and: [filter: all, ' amount > 0 ']
  all:
    event: ' T '
queries:
  q:
    title: Q
    nrql: ' N '
    visualization: list
"

/-- The records of the example: the filters, and the texts of the queries. -/
def spacedRecords : List Filter × List String :=
  ([⟨"all", "T", none⟩, ⟨"paid", "T", some "(amount > 0)"⟩], ["N"])

/-- The example compiles to these records, in normalized form. -/
theorem normalized_of_ofText_spaced :
    ∃ compiled config, (ofText spacedText).result = .ok compiled ∧
      Config.declared? spacedText = some config ∧ compiled.Normalized config ∧
      (compiled.filters.records, compiled.queries.records.map Query.text) = spacedRecords := by
  have hcompiles : (ofText spacedText).result.toOption.map (fun compiled =>
      (compiled.filters.records, compiled.queries.records.map Query.text)) =
    some spacedRecords := by decide +kernel
  obtain ⟨compiled, hcompiled, hrecords⟩ := exists_ok_of_toOption_map hcompiles
  obtain ⟨config, hconfig, hnormalized⟩ := normalized_of_ofText hcompiled
  exact ⟨compiled, config, hcompiled, hconfig, hnormalized, hrecords⟩

end Compiled

end Dashboards
