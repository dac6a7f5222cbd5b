import Dashboards.Proofs.Document.Normalized

/-!
# Which compiled queries are complete

A compiled query is complete if its text is not blank where a query needs one: an expression of its
own, or else the event and what the output selection selects (`Query.IsComplete`). A document is
accepted without looking at that, and a query in it is complete exactly if its declaration leaves no
such part blank (`isComplete_iff_of_ofText`). Absent parts are refused, and filters never pass on a
blank event; but a blank event, a blank expression and a blank output selection that are written in
the document come through.
-/

namespace Dashboards

/-! ## Output selections -/

namespace OutputSelection

variable {name : String} {filters : FilterTable} {value : Yaml.Value}

/-- Something that is not blank stands behind the keyword. -/
def IsComplete (output : OutputSelection) : Prop :=
  ∃ selection, output.nrql = "SELECT " ++ selection ∧ Text.isBlankText selection = false

/-- A declaration of nothing: a blank text, or a list of one. -/
inductive DeclaresNothing : Yaml.Value → Prop
  | text {nrql : String} : Text.isBlankText nrql = true → DeclaresNothing (.text nrql)
  | item {nrql : String} : Text.isBlankText nrql = true → DeclaresNothing (.sequence [.text nrql])

/-- What a clause of components selects. -/
def selection (components : List Component) : String :=
  String.intercalate ", " (components.map Component.text)

/-- The clause of components is complete exactly if what it selects is not blank. -/
theorem isComplete_clause_iff {components : List Component} :
    (OutputSelection.mk name (clause components)).IsComplete ↔
      Text.isBlankText (selection components) = false := by
  constructor
  · rintro ⟨selected, hclause, hselected⟩
    have heq : selection components = selected := (String.append_right_inj "SELECT ").1 hclause
    rw [heq]
    exact hselected
  · exact fun hselection => ⟨selection components, rfl, hselection⟩

/-- A structured component is not blank, whatever its parts are. -/
theorem Component.isBlankText_grouped (wrapper : Wrapper) (function condition : String)
    (label : Option String) :
    Text.isBlankText (grouped wrapper function condition label).text = false := by
  have hkeyword : Text.isBlankText wrapper.keyword = false := by cases wrapper <;> decide
  simp [Component.text, hkeyword]

/-- A component is blank exactly if it is a blank text as it is written. -/
theorem Component.isBlankText_iff {component : Component}
    (h : Component.ofValue name filters value = .ok component) :
    Text.isBlankText component.text = true ↔
      ∃ nrql, value = .text nrql ∧ Text.isBlankText nrql = true := by
  cases value with
  | text nrql =>
    cases h
    simp [Component.text]
  | mapping entries =>
    obtain ⟨wrapper, value, -, hgroup⟩ := ofValue_mapping_eq_ok_iff.1 h
    obtain ⟨body, function, condition, nrql, -, -, -, -, rfl⟩ := ofGroup_eq_ok_iff.1 hgroup
    simp [isBlankText_grouped]
  | _ => cases h

/-- What an output selection selects is blank exactly if it declares nothing: a structured component
is never blank, and neither is a list with a comma in it. -/
theorem isBlankText_selection_iff {read : List Component}
    (h : components name filters value = .ok read) :
    Text.isBlankText (selection read) = true ↔ DeclaresNothing value := by
  cases value with
  | text nrql =>
    cases h
    have hselection : selection [.raw nrql] = nrql := String.intercalate_singleton ..
    rw [hselection]
    constructor
    · exact .text
    · rintro ⟨hblank⟩
      exact hblank
  | mapping entries =>
    obtain ⟨component, hcomponent, hresult⟩ := bind_eq_ok_iff.1 h
    cases hresult
    have hselection : selection [component] = component.text := String.intercalate_singleton ..
    rw [hselection, Component.isBlankText_iff hcomponent]
    constructor
    · rintro ⟨nrql, ⟨⟩, -⟩
    · rintro ⟨⟩
  | sequence items =>
    obtain ⟨hitems, hread⟩ := components_sequence_eq_ok_iff.1 h
    match hread with
    | .nil => exact absurd rfl hitems
    | .cons (b := component) hcomponent .nil =>
      have hselection : selection [component] = component.text := String.intercalate_singleton ..
      rw [hselection, Component.isBlankText_iff hcomponent]
      constructor
      · rintro ⟨nrql, rfl, hblank⟩
        exact .item hblank
      · rintro (_ | ⟨hblank⟩)
        exact ⟨_, rfl, hblank⟩
    | .cons _ (.cons _ _) =>
      -- The comma behind the first component is left even if all components are blank.
      have hcomma : Text.isBlankText ", " = false := by decide
      constructor
      · simp [selection, String.intercalate_cons_cons, hcomma]
      · rintro ⟨⟩
  | _ => cases h

/-- An output selection is complete exactly if it declares something. -/
theorem isComplete_iff {output : OutputSelection} (h : ofValue name filters value = .ok output) :
    output.IsComplete ↔ ¬ DeclaresNothing value := by
  obtain ⟨read, hread, rfl⟩ := ofValue_eq_ok_iff.1 h
  rw [isComplete_clause_iff, ← isBlankText_selection_iff hread, Bool.not_eq_true]

end OutputSelection

/-! ## Queries -/

/-- Neither the event nor what is selected is blank. -/
structure ComponentQuery.IsComplete (parts : ComponentQuery) : Prop where
  event : Text.isBlankText parts.event = false
  output : parts.output.IsComplete

/-- The text of a query is not blank where a query needs one. -/
def Query.IsComplete (query : Query) : Prop :=
  match query.source with
  | .inline nrql _ => Text.isBlankText nrql = false
  | .components parts => parts.IsComplete

/-- A declaration leaves blank what a query needs: its expression, or without one its event or the
output selection that it names. -/
inductive Config.LeavesBlank (config : Config) (declared : Config.Query) : Prop
  | nrql {text : String} : declared.nrql = some text → Text.isBlankText text = true →
      LeavesBlank config declared
  | event {text : String} : declared.nrql = none → declared.event = some text →
      Text.isBlankText text = true → LeavesBlank config declared
  | output {name : String} {value : Yaml.Value} : declared.nrql = none →
      declared.output = some name → config.outputs.get? name = some value →
      OutputSelection.DeclaresNothing value → LeavesBlank config declared

namespace Query

variable {config : Config} {components : Components} {name : String} {declared : Config.Query}
  {query : Query}

/-- The event of a query is blank exactly if it declares a blank one: that of a filter is not. -/
theorem isBlankText_event_iff {event : Option String} {condition : Option Filter} {result : String}
    (h : eventOf name event condition = .ok result)
    (hcondition : ∀ filter, condition = some filter → filter.Normal) :
    Text.isBlankText result = true ↔ ∃ text, event = some text ∧ Text.isBlankText text = true := by
  have hresult := event_of_eventOf h
  cases event with
  | some text =>
    simp only [Option.map_some, Option.some_or, Option.some.injEq] at hresult
    simp [← hresult]
  | none =>
    obtain ⟨filter, hfilter, rfl⟩ := Option.map_eq_some_iff.1 (Option.none_or.symm.trans hresult)
    have hevent := (hcondition filter hfilter).event
    rw [← Text.trim_eq_empty_iff, hevent.trimmed]
    simp [hevent.nonempty]

/-- The condition of a query is a filter of the table. -/
theorem exists_filter_of_drawnFrom {parts : ComponentQuery}
    (h : parts.DrawnFrom components declared) {filter : Filter}
    (hcondition : parts.condition = some filter) :
    ∃ name, components.filters.get? name = some filter := by
  have hnamed := h.condition
  rw [hcondition, Option.map_some, Option.map_eq_some_iff] at hnamed
  obtain ⟨name, -, hget⟩ := hnamed
  exact ⟨name, hget⟩

/-- A query with an expression of its own is complete exactly if it does not leave it blank. -/
theorem isComplete_iff_of_compileInline (h : compileInline name declared = .ok query) :
    query.IsComplete ↔ ¬ config.LeavesBlank declared := by
  obtain ⟨title, nrql, text, visualization, -, hnrql, -, -, -, rfl⟩ := compileInline_eq_ok_iff.1 h
  change Text.isBlankText (Text.trim nrql) = false ↔ _
  rw [Text.isBlankText_trim, ← Bool.not_eq_true, not_iff_not]
  constructor
  · exact .nrql hnrql
  · rintro (⟨htext, hblank⟩ | ⟨hnone, -, -⟩ | ⟨hnone, -, -, -⟩)
    · cases hnrql.symm.trans htext
      exact hblank
    · cases hnrql.symm.trans hnone
    · cases hnrql.symm.trans hnone

/-- A query from components is complete exactly if it leaves neither its event blank nor the output
selection that it names, given the components that a configuration compiles to. -/
theorem isComplete_iff_of_compileComponents (hnrql : declared.nrql = none)
    (h : compileComponents name declared components = .ok query)
    (hfilters : ∀ name filter, components.filters.get? name = some filter → filter.Normal)
    (houtputs : ∀ name output, components.outputs.get? name = some output →
      ∃ value, config.outputs.get? name = some value ∧
        OutputSelection.ofValue name components.filters value = .ok output) :
    query.IsComplete ↔ ¬ config.LeavesBlank declared := by
  have hread : ofConfig name declared components = .ok query := by
    rw [ofConfig, hnrql]
    exact h
  obtain ⟨title, outputName, displayName, condition, output, display, event, -, -, houtputName, -,
    -, -, houtput, -, hevent, rfl⟩ := compileComponents_eq_ok_iff.1 h
  have hdrawn := drawnFrom_of_ofConfig hread rfl
  have hblank := isBlankText_event_iff hevent fun filter hcondition => by
    obtain ⟨filterName, hfilter⟩ := exists_filter_of_drawnFrom hdrawn hcondition
    exact hfilters filterName filter hfilter
  obtain ⟨value, hvalue, houtputRead⟩ := houtputs outputName output houtput
  have hselects := OutputSelection.isComplete_iff houtputRead
  constructor
  · rintro ⟨hcomplete, hselection⟩ (⟨htext, -⟩ | ⟨-, htext, htextBlank⟩ |
      ⟨-, hnamed, hdeclared, hnothing⟩)
    · cases hnrql.symm.trans htext
    · exact Bool.eq_false_iff.1 hcomplete (hblank.2 ⟨_, htext, htextBlank⟩)
    · cases houtputName.symm.trans hnamed
      cases hvalue.symm.trans hdeclared
      exact hselects.1 hselection hnothing
  · intro hleaves
    refine ⟨Bool.eq_false_iff.2 fun hevent => ?_, hselects.2 fun hnothing => ?_⟩
    · obtain ⟨text, htext, htextBlank⟩ := hblank.1 hevent
      exact hleaves (.event hnrql htext htextBlank)
    · exact hleaves (.output hnrql houtputName hvalue hnothing)

/-- A compiled query is complete exactly if its declaration leaves nothing blank that it needs. -/
theorem isComplete_iff_of_ofConfig (h : ofConfig name declared components = .ok query)
    (hfilters : ∀ name filter, components.filters.get? name = some filter → filter.Normal)
    (houtputs : ∀ name output, components.outputs.get? name = some output →
      ∃ value, config.outputs.get? name = some value ∧
        OutputSelection.ofValue name components.filters value = .ok output) :
    query.IsComplete ↔ ¬ config.LeavesBlank declared := by
  rw [ofConfig] at h
  split at h
  · exact isComplete_iff_of_compileInline h
  · next hnone =>
    rw [Option.isSome_iff_ne_none, not_not] at hnone
    exact isComplete_iff_of_compileComponents hnone h hfilters houtputs

end Query

/-! ## Documents -/

namespace Compiled

variable {compiled : Compiled} {text : String}

/-- In a document that is accepted every query that is written compiles, and it is complete exactly
if its declaration leaves nothing blank that it needs. -/
theorem isComplete_iff_of_ofText (h : (ofText text).result = .ok compiled) :
    ∃ config, Config.declared? text = some config ∧
      (∀ name, compiled.queryAt? config (.own name) = compiled.queries.get? name) ∧
      ∀ site declared, config.queryAt? site = some declared →
        ∃ query, compiled.queryAt? config site = some query ∧
          (query.IsComplete ↔ ¬ config.LeavesBlank declared) := by
  obtain ⟨config, hconfig, hcompiled⟩ := exists_declared_of_ofText h
  refine ⟨config, hconfig, queryAt?_own hcompiled, fun site declared hdeclared => ?_⟩
  obtain ⟨hfilters, houtputs, -⟩ := ofConfig_eq_ok_iff.1 hcompiled
  obtain ⟨query, hquery⟩ := exists_queryAt? hcompiled hdeclared
  obtain ⟨declared', hdeclared', hread⟩ := queryAt?_eq_some_iff.1 hquery
  cases hdeclared.symm.trans hdeclared'
  refine ⟨query, hquery, Query.isComplete_iff_of_ofConfig hread
    (Filter.normal_of_compile hfilters) fun name output hget => ?_⟩
  exact Table.exists_declared_of_get? (OutputSelection.compile_entries _ _) houtputs hget

/-- A document with a query whose event is blank. -/
def blankText : String := "output-selections: {n: x}
displays: {d: {visualization: list}}
queries:
  q:
    title: Q
    event: ' '
    output: n
    display: d
"

/-- The query of the example: nothing stands behind `FROM`. -/
def blankQuery : Query :=
  ⟨"q", "Q", none, .components ⟨"", none, ⟨"n", "SELECT x"⟩, ⟨"d", none, .list⟩⟩⟩

/-- The example is accepted. -/
theorem ofText_blankText :
    ∃ compiled, (ofText blankText).result = .ok compiled ∧
      compiled.queries.get? "q" = some blankQuery := by
  have hqueries : (ofText blankText).result.toOption.map (·.queries.get? "q") =
      some (some blankQuery) := by decide +kernel
  exact exists_ok_of_toOption_map hqueries

/-- The query of the example is not complete. -/
theorem not_isComplete_blankQuery : ¬ blankQuery.IsComplete := by
  rintro ⟨hevent, -⟩
  exact Bool.noConfusion hevent

/-- The declaration of the query in the example leaves something blank. -/
theorem isComplete_iff_of_ofText_blank :
    ∃ compiled config declared, (ofText blankText).result = .ok compiled ∧
      Config.declared? blankText = some config ∧ config.queryAt? (.own "q") = some declared ∧
      compiled.queryAt? config (.own "q") = some blankQuery ∧ config.LeavesBlank declared := by
  obtain ⟨compiled, hcompiled, hget⟩ := ofText_blankText
  obtain ⟨config, hconfig, hown, hcomplete⟩ := isComplete_iff_of_ofText hcompiled
  have hquery := (hown "q").trans hget
  obtain ⟨declared, hdeclared, -⟩ := queryAt?_eq_some_iff.1 hquery
  obtain ⟨query, hfound, hiff⟩ := hcomplete _ declared hdeclared
  cases hquery.symm.trans hfound
  refine ⟨compiled, config, declared, hcompiled, hconfig, hdeclared, hquery, ?_⟩
  exact not_not.1 fun hleaves => not_isComplete_blankQuery (hiff.2 hleaves)

/-- A document with a blank event is accepted, and its query has nothing to select from. -/
theorem ofText_accepts_blank_event :
    ∃ compiled query, (ofText blankText).result = .ok compiled ∧
      compiled.queries.get? "q" = some query ∧ query.text = "SELECT x FROM " ∧
      ¬ query.IsComplete := by
  obtain ⟨compiled, hcompiled, hget⟩ := ofText_blankText
  exact ⟨compiled, blankQuery, hcompiled, hget, rfl, not_isComplete_blankQuery⟩

end Compiled

end Dashboards
