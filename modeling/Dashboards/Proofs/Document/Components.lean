import Dashboards.Output.Compile
import Dashboards.Proofs.Document.Evaluation
import Dashboards.Proofs.Filter.Resolved
import Dashboards.Query.Compile

/-!
# Components of queries are what they declare

The tables of filters, output selections and displays that a configuration compiles to hold under
every name what the configuration means by it (`Components.Faithful`). A condition in an output
selection is looked up in the table of filters, which has exactly the declared names, so it stands
for the text that the declared filter means (`condition?_of_conditionOf`).
-/

namespace Dashboards

variable {config : Config}

/-! ## Filters -/

namespace Filter

variable {filters : FilterTable}

/-- A compiled filter is the reading of its name. -/
theorem reading?_of_get? (h : (compile config.filters).result = .ok filters) {name : String}
    {filter : Filter} (hget : filters.get? name = some filter) :
    ∃ reading, config.reading? name = some reading ∧ filter = reading.filter name := by
  rw [get?_of_compile h, Option.map_eq_some_iff] at hget
  obtain ⟨reading, hreading, rfl⟩ := hget
  exact ⟨reading, hreading, rfl⟩

/-- A name without a compiled filter is not declared. -/
theorem contains_of_get?_eq_none (h : (compile config.filters).result = .ok filters) {name : String}
    (hget : filters.get? name = none) : config.filters.contains name = false := by
  rw [← Bool.not_eq_true, Table.contains_iff, ← (names_perm_of_compile h).mem_iff]
  exact Table.get?_eq_none_iff.1 hget

end Filter

/-! ## Output selections -/

namespace OutputSelection

variable {filters : FilterTable} {output : String}

/-- What a text stands for as a condition in the table is what the configuration means by it. -/
theorem condition?_of_conditionOf (h : (Filter.compile config.filters).result = .ok filters)
    {condition nrql : String}
    (hcondition : Component.conditionOf output filters condition = .ok nrql) :
    config.condition? condition = some nrql := by
  rw [Component.conditionOf] at hcondition
  cases hget : filters.get? condition with
  | none =>
    simp only [hget, Except.ok.injEq] at hcondition
    rw [Config.condition?, Filter.contains_of_get?_eq_none h hget, hcondition]
    rfl
  | some filter =>
    obtain ⟨reading, hreading, rfl⟩ := Filter.reading?_of_get? h hget
    have hdeclared : config.filters.contains condition = true := by
      rw [Table.contains_iff, ← (Filter.names_perm_of_compile h).mem_iff, Table.mem_names_iff]
      exact ⟨_, hget⟩
    rw [Config.condition?, hdeclared, if_pos rfl, hreading]
    simp only [hget, Reading.filter] at hcondition
    cases hformula : reading.formula with
    | none => simp [hformula] at hcondition
    | some formula => simpa [hformula] using hcondition

/-- A field that a structured component has to have is there exactly if it is given. -/
theorem required_eq_ok_iff {wrapper : Wrapper} {field : Body.Field} {value : Option String}
    {text : String} :
    Component.required output wrapper field value = .ok text ↔ value = some text := by
  cases value <;> simp [Component.required]

/-- A structured component is read exactly if its body has a function and a condition that stands
for something. -/
theorem Component.ofGroup_eq_ok_iff {wrapper : Wrapper} {value : Yaml.Value}
    {component : Component} :
    ofGroup output filters wrapper value = .ok component ↔
      ∃ body function condition nrql, Body.ofValue value = .ok body ∧
        body.function = some function ∧ body.condition = some condition ∧
        conditionOf output filters condition = .ok nrql ∧
        component = .grouped wrapper function nrql (Text.trimmed? body.label) := by
  rw [ofGroup]
  cases hbody : Body.ofValue value with
  | error reason => simp
  | ok body =>
    simp only [bind_eq_ok_iff, required_eq_ok_iff, pure_eq_ok_iff, Text.bind_nonBlank?,
      Except.ok.injEq]
    constructor
    · rintro ⟨function, hfunction, condition, hcondition, nrql, hnrql, rfl⟩
      exact ⟨body, function, condition, nrql, rfl, hfunction, hcondition, hnrql, rfl⟩
    · rintro ⟨_, function, condition, nrql, rfl, hfunction, hcondition, hnrql, rfl⟩
      exact ⟨function, hfunction, condition, hcondition, nrql, hnrql, rfl⟩

/-- A mapping is read as a component exactly if it has a wrapper and is read as that. -/
theorem Component.ofValue_mapping_eq_ok_iff {entries : List (Yaml.Value × Yaml.Value)}
    {component : Component} :
    ofValue output filters (.mapping entries) = .ok component ↔
      ∃ wrapper value, wrapped? entries = some (wrapper, value) ∧
        ofGroup output filters wrapper value = .ok component := by
  rw [ofValue]
  cases hwrapped : wrapped? entries with
  | none => simp
  | some wrapped =>
    constructor
    · exact fun h => ⟨wrapped.1, wrapped.2, rfl, h⟩
    · rintro ⟨wrapper, value, ⟨⟩, h⟩
      exact h

/-- A component that is read means its text. -/
theorem component?_of_ofValue (h : (Filter.compile config.filters).result = .ok filters)
    {value : Yaml.Value} {component : Component}
    (hread : Component.ofValue output filters value = .ok component) :
    config.component? value = some component.text := by
  cases value with
  | text nrql =>
    cases hread
    rfl
  | mapping entries =>
    obtain ⟨wrapper, value, hwrapped, hgroup⟩ := Component.ofValue_mapping_eq_ok_iff.1 hread
    obtain ⟨body, function, written, condition, hbody, hfunction, hwritten, hcondition, rfl⟩ :=
      Component.ofGroup_eq_ok_iff.1 hgroup
    simp [Config.component?, hwrapped, hbody, Except.toOption, hfunction, hwritten,
      condition?_of_conditionOf h hcondition, Component.text]
  | _ => cases hread

/-- The components of a list with elements are read one by one. -/
theorem components_sequence {items : List Yaml.Value} (h : items ≠ []) :
    components output filters (.sequence items) =
      items.mapM (Component.ofValue output filters) := by
  cases items with
  | nil => exact absurd rfl h
  | cons item rest => rfl

/-- A list is read exactly if there are elements in it and each is read. -/
theorem components_sequence_eq_ok_iff {items : List Yaml.Value} {read : List Component} :
    components output filters (.sequence items) = .ok read ↔
      items ≠ [] ∧
        List.Forall₂ (fun item component => Component.ofValue output filters item = .ok component)
          items read := by
  by_cases hitems : items = []
  · subst hitems
    simp [components]
  · rw [components_sequence hitems, mapM_eq_ok_iff, and_iff_right hitems]

/-- The components of an output selection that are read mean their texts. -/
theorem components?_of_components (h : (Filter.compile config.filters).result = .ok filters)
    {value : Yaml.Value} {read : List Component}
    (hread : components output filters value = .ok read) :
    config.components? value = some (read.map Component.text) := by
  cases value with
  | text nrql =>
    cases hread
    rfl
  | mapping entries =>
    rw [components, bind_eq_ok_iff] at hread
    obtain ⟨component, hcomponent, hresult⟩ := hread
    cases hresult
    simp [Config.components?, component?_of_ofValue h hcomponent]
  | sequence items =>
    obtain ⟨hitems, hread⟩ := components_sequence_eq_ok_iff.1 hread
    rw [Config.components?, if_neg (by simpa using hitems), mapM_eq_some_iff,
      List.forall₂_map_right_iff]
    exact hread.imp fun _ _ hcomponent => component?_of_ofValue h hcomponent
  | _ => cases hread

/-- An output selection is read exactly if its components are. -/
theorem ofValue_eq_ok_iff {value : Yaml.Value} {selection : OutputSelection} :
    ofValue output filters value = .ok selection ↔
      ∃ read, components output filters value = .ok read ∧ selection = ⟨output, clause read⟩ := by
  simp only [ofValue, bind_eq_ok_iff, pure_eq_ok_iff, @eq_comm _ _ selection]

/-- An output selection that is read means its clause. -/
theorem clause?_of_ofValue (h : (Filter.compile config.filters).result = .ok filters)
    {value : Yaml.Value} {selection : OutputSelection}
    (hread : ofValue output filters value = .ok selection) :
    config.clause? value = some selection.nrql := by
  obtain ⟨read, hcomponents, rfl⟩ := ofValue_eq_ok_iff.1 hread
  simp [Config.clause?, components?_of_components h hcomponents, clause]

/-- The table of output selections holds what is read of each declaration. -/
theorem compile_entries (configs : Table Yaml.Value) (filters : FilterTable) :
    (compile configs filters).result.map Table.entries =
      readEntries (fun name => ofValue name filters) configs.entries := by
  refine entries_of_section (fun entries table => (addAll filters entries table).result)
    (fun _ => rfl) (fun name value rest table => ?_) configs
  simp only [addAll, Traced.result_bind, Traced.result_lift, Traced.result_debug, Except.bind]

end OutputSelection

/-! ## Displays -/

/-- A text that is read as a visualization names it. -/
theorem Visualization.ofText_eq_ok_iff {text : String} {visualization : Visualization} :
    ofText text = .ok visualization ↔ ofText? text = some visualization := by
  rw [ofText]
  cases ofText? text <;> simp

namespace Display

/-- A display is read exactly if it has a visualization that is known. -/
theorem ofConfig_eq_ok_iff {name : String} {declared : Config.Display} {display : Display} :
    ofConfig name declared = .ok display ↔
      ∃ text visualization, declared.visualization = some text ∧
        Visualization.ofText? text = some visualization ∧
        display = make name declared.nrql visualization := by
  rw [ofConfig]
  cases declared.visualization with
  | none => simp
  | some text =>
    simp only [bind_eq_ok_iff, pure_eq_ok_iff, Visualization.ofText_eq_ok_iff, Option.some.injEq]
    constructor
    · rintro ⟨visualization, hvisualization, rfl⟩
      exact ⟨text, visualization, rfl, hvisualization, rfl⟩
    · rintro ⟨_, visualization, rfl, hvisualization, rfl⟩
      exact ⟨visualization, hvisualization, rfl⟩

/-- A display that is read is what its declaration means. -/
theorem showing?_of_ofConfig {name : String} {declared : Config.Display} {display : Display}
    (hread : ofConfig name declared = .ok display) :
    Config.showing? name declared = some display := by
  obtain ⟨text, visualization, hvisualization, hnamed, rfl⟩ := ofConfig_eq_ok_iff.1 hread
  simp [Config.showing?, hvisualization, hnamed, Text.bind_nonBlank?, make]

/-- The table of displays holds what is read of each declaration. -/
theorem compile_entries (configs : Table Config.Display) :
    (compile configs).map Table.entries = readEntries ofConfig configs.entries :=
  entries_of_section addAll (fun _ => rfl) (fun _ _ _ _ => rfl) configs

end Display

/-! ## All components -/

/-- The tables of components hold what the configuration means. -/
structure Components.Faithful (config : Config) (components : Components) : Prop where
  reading? : ∀ {name filter}, components.filters.get? name = some filter →
    ∃ reading, config.reading? name = some reading ∧ filter = reading.filter name
  clause? : ∀ {name output}, components.outputs.get? name = some output →
    (config.outputs.get? name).bind config.clause? = some output.nrql
  showing? : ∀ {name display}, components.displays.get? name = some display →
    (config.displays.get? name).bind (Config.showing? name) = some display

/-- Tables that a configuration compiles to hold what it means. -/
theorem Components.faithful_of_compile {components : Components}
    (hfilters : (Filter.compile config.filters).result = .ok components.filters)
    (houtputs : (OutputSelection.compile config.outputs components.filters).result =
      .ok components.outputs)
    (hdisplays : Display.compile config.displays = .ok components.displays) :
    components.Faithful config where
  reading? := Filter.reading?_of_get? hfilters
  clause? := by
    intro name output hget
    obtain ⟨value, hvalue, hread⟩ :=
      Table.exists_declared_of_get? (OutputSelection.compile_entries _ _) houtputs hget
    rw [hvalue]
    exact OutputSelection.clause?_of_ofValue hfilters hread
  showing? := by
    intro name display hget
    obtain ⟨declared, hdeclared, hread⟩ :=
      Table.exists_declared_of_get? (Display.compile_entries _) hdisplays hget
    rw [hdeclared]
    exact Display.showing?_of_ofConfig hread

end Dashboards
