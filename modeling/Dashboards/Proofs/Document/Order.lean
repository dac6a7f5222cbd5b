import Dashboards.Proofs.Document.Slice
import Dashboards.Proofs.Document.Stages
import Dashboards.Proofs.Rearrangement

/-!
# The order of declarations

The sections of a configuration may be written in another order (`Config.Perm`), which changes the
passes in which filters are resolved, and which of several errors is the first. But every stage
still succeeds or fails as before, and gives the same records (`Stage.run_bothOrNeither`), since a
record depends on the tables only through lookups. So the two configurations compile to the same
tables in another order, or both fail in the same stage (`ofConfig_perm`).
-/

namespace Dashboards

/-- Configurations whose sections have the same entries, each perhaps in another order. -/
structure Config.Perm (config config' : Config) : Prop where
  filters : config.filters.Perm config'.filters
  outputs : config.outputs.Perm config'.outputs
  displays : config.displays.Perm config'.displays
  queries : config.queries.Perm config'.queries
  widgets : config.widgets.Perm config'.widgets
  dashboards : config.dashboards.Perm config'.dashboards

/-- Compiled documents with the same records under the same names, perhaps in another order. -/
structure Compiled.Perm (compiled compiled' : Compiled) : Prop where
  filters : compiled.filters.Perm compiled'.filters
  outputs : compiled.outputs.Perm compiled'.outputs
  displays : compiled.displays.Perm compiled'.displays
  queries : compiled.queries.Perm compiled'.queries
  widgets : compiled.widgets.Perm compiled'.widgets
  dashboards : compiled.dashboards.Perm compiled'.dashboards

/-! ## Filters -/

namespace Filter

variable {configs configs' : Table Config.Filter}

/-- Filters that compile do so in another order, to the same filters. -/
theorem exists_compile_of_perm (hperm : configs.Perm configs') {resolved : FilterTable}
    (h : (compile configs).result = .ok resolved) :
    ∃ resolved', (compile configs').result = .ok resolved' ∧ resolved.Perm resolved' := by
  obtain ⟨hwellFormed, hgrounded⟩ := compile_ok_iff.1 ⟨resolved, h⟩
  obtain ⟨resolved', h'⟩ : ∃ resolved', (compile configs').result = .ok resolved' := by
    refine compile_ok_iff.2 ⟨fun entry hentry => hwellFormed entry (hperm.mem_iff.2 hentry),
      fun name hname => ?_⟩
    have hknown : (· ∈ configs'.names) = (· ∈ configs.names) :=
      funext fun _ => propext hperm.mem_names
    rw [GroundedName, hknown, hperm.get?_eq]
    exact hgrounded name (hperm.mem_names.1 hname)
  refine ⟨resolved', h', Table.perm_iff.2 fun name => ?_⟩
  rw [get?_of_compile h', get?_of_compile h, hperm.get?_eq]

/-- Filters in another order compile to the same filters, or neither compile. -/
theorem compile_bothOrNeither (hperm : configs.Perm configs') :
    BothOrNeither Table.Perm (compile configs).result (compile configs').result := by
  refine BothOrNeither.of_ok (fun resolved h => exists_compile_of_perm hperm h)
    fun resolved' h' => ?_
  obtain ⟨resolved, h, -⟩ := exists_compile_of_perm hperm.symm h'
  exact ⟨resolved, h⟩

end Filter

/-! ## Stages -/

variable {config config' : Config} {compiled compiled' : Compiled}

namespace Compiled

/-- Documents in another order have the same components under any names. -/
theorem Perm.components (h : compiled.Perm compiled') (named : Config.Entry → Prop) :
    compiled.components.AgreeOn named compiled'.components where
  filters name _ := Table.perm_iff.1 h.filters name
  outputs name _ := Table.perm_iff.1 h.outputs name
  displays name _ := Table.perm_iff.1 h.displays name

/-- Documents in another order have the same for placements under any names. -/
theorem Perm.placeable (h : compiled.Perm compiled') (named : Config.Entry → Prop) :
    compiled.placeable.AgreeOn named compiled'.placeable where
  components := h.components named
  queries name _ := Table.perm_iff.1 h.queries name
  widgets name _ := Table.perm_iff.1 h.widgets name

end Compiled

section
variable {components components' : Components} {tables tables' : Placeable}

/-- Output selections in another order compile to the same ones, or neither compile. -/
theorem OutputSelection.compile_bothOrNeither {configs configs' : Table Yaml.Value}
    (hperm : configs.Perm configs') {filters filters' : FilterTable}
    (hfilters : filters.Perm filters') :
    BothOrNeither Table.Perm (compile configs filters).result
      (compile configs' filters').result := by
  refine Table.bothOrNeither_of_section (compile_entries _ _) (compile_entries _ _) hperm
    fun name value => ?_
  exact ofValue_congr fun condition _ => Table.perm_iff.1 hfilters condition

/-- Displays in another order compile to the same ones, or neither compile. -/
theorem Display.compile_bothOrNeither {configs configs' : Table Config.Display}
    (hperm : configs.Perm configs') :
    BothOrNeither Table.Perm (compile configs) (compile configs') :=
  Table.bothOrNeither_of_section (compile_entries _) (compile_entries _) hperm fun _ _ => rfl

/-- Queries in another order compile to the same ones, or neither compile. -/
theorem Query.compile_bothOrNeither {configs configs' : Table Config.Query}
    (hperm : configs.Perm configs') (h : components.AgreeOn (fun _ => True) components') :
    BothOrNeither Table.Perm (compile configs components).result
      (compile configs' components').result :=
  Table.bothOrNeither_of_section (compile_entries _ _) (compile_entries _ _) hperm fun _ _ =>
    ofConfig_congr h fun _ _ => trivial

/-- Reusable widgets in another order compile to the same ones, or neither compile. -/
theorem WidgetDefinition.compile_bothOrNeither {configs configs' : Table Config.Widget}
    (hperm : configs.Perm configs') (h : tables.AgreeOn (fun _ => True) tables') :
    BothOrNeither Table.Perm (compile configs tables.queries tables.components)
      (compile configs' tables'.queries tables'.components) :=
  Table.bothOrNeither_of_section (compile_entries _ _ _) (compile_entries _ _ _) hperm fun _ _ =>
    ofConfig_congr h.components h.queries fun _ _ _ _ => trivial

/-- Dashboards in another order compile to the same ones, or neither compile. -/
theorem Dashboard.compile_bothOrNeither {configs configs' : Table Config.Dashboard}
    (hperm : configs.Perm configs') (h : tables.AgreeOn (fun _ => True) tables') :
    BothOrNeither Table.Perm (compile configs tables).result (compile configs' tables').result :=
  Table.bothOrNeither_of_section (compile_entries _ _) (compile_entries _ _) hperm fun _ _ =>
    ofConfig_congr h fun _ _ _ _ => trivial

end

namespace Compiled

/-- A stage on declarations in another order and on tables in another order gives the same tables in
another order, or fails too. -/
theorem Stage.run_bothOrNeither (hconfig : config.Perm config') (h : compiled.Perm compiled')
    (stage : Stage) :
    BothOrNeither Compiled.Perm (stage.run config compiled) (stage.run config' compiled') := by
  cases stage with
  | filters =>
    exact (Filter.compile_bothOrNeither hconfig.filters).map fun _ _ hfilters =>
      { h with filters := hfilters }
  | outputs =>
    exact (OutputSelection.compile_bothOrNeither hconfig.outputs h.filters).map
      fun _ _ houtputs => { h with outputs := houtputs }
  | displays =>
    exact (Display.compile_bothOrNeither hconfig.displays).map fun _ _ hdisplays =>
      { h with displays := hdisplays }
  | queries =>
    exact (Query.compile_bothOrNeither hconfig.queries (h.components _)).map fun _ _ hqueries =>
      { h with queries := hqueries }
  | widgets =>
    exact (WidgetDefinition.compile_bothOrNeither hconfig.widgets (h.placeable _)).map
      fun _ _ hwidgets => { h with widgets := hwidgets }
  | dashboards =>
    exact (Dashboard.compile_bothOrNeither hconfig.dashboards (h.placeable _)).map
      fun _ _ hdashboards => { h with dashboards := hdashboards }

/-! ## Compilations -/

/-- Stages that run on declarations in another order give the same tables in another order, or the
first that fails is the same. -/
theorem runStages_perm (hconfig : config.Perm config') (h : compiled.Perm compiled')
    (stages : List Stage) :
    (∃ done done', runStages config stages compiled = .ok done ∧
      runStages config' stages compiled' = .ok done' ∧ done.Perm done') ∨
    ∃ stage e e', runStages config stages compiled = .error (stage, e) ∧
      runStages config' stages compiled' = .error (stage, e') := by
  induction stages generalizing compiled compiled' with
  | nil => exact .inl ⟨compiled, compiled', rfl, rfl, h⟩
  | cons stage rest ih =>
    cases hrun : stage.run config compiled with
    | error e =>
      have halike := hrun ▸ Stage.run_bothOrNeither hconfig h stage
      cases hrun' : stage.run config' compiled' with
      | error e' => exact .inr ⟨stage, e, e', runStages_of_error hrun, runStages_of_error hrun'⟩
      | ok next' =>
        rw [hrun'] at halike
        cases halike
    | ok next =>
      have halike := hrun ▸ Stage.run_bothOrNeither hconfig h stage
      cases hrun' : stage.run config' compiled' with
      | error e' =>
        rw [hrun'] at halike
        cases halike
      | ok next' =>
        rw [hrun'] at halike
        cases halike with
        | ok hnext =>
        rw [runStages_of_ok hrun, runStages_of_ok hrun']
        exact ih hnext

/-- Documents without entries are the same. -/
theorem Perm.empty : Perm {} {} :=
  ⟨.refl _, .refl _, .refl _, .refl _, .refl _, .refl _⟩

/-- Configurations whose sections are in another order compile to the same records under the same
names, or both fail, and in the same stage. -/
theorem ofConfig_perm (hconfig : config.Perm config') :
    (∃ compiled compiled', (ofConfig config).result = .ok compiled ∧
      (ofConfig config').result = .ok compiled' ∧ compiled.Perm compiled') ∨
    ∃ stage e e', (ofConfig config).result = .error e ∧ (ofConfig config').result = .error e' ∧
      FailsIn config stage e ∧ FailsIn config' stage e' := by
  rcases runStages_perm hconfig .empty Stage.all with
    ⟨compiled, compiled', hrun, hrun', hperm⟩ | ⟨stage, e, e', hfails, hfails'⟩
  · exact .inl ⟨compiled, compiled', by rw [result_ofConfig, hrun]; rfl,
      by rw [result_ofConfig, hrun']; rfl, hperm⟩
  · exact .inr ⟨stage, e, e', result_of_failsIn hfails, result_of_failsIn hfails', hfails, hfails'⟩

/-- The shop with every section written in reverse: its extending filter now comes after the one
that it refers to. -/
def reversedShop : Config where
  filters := shopConfig.filters.reverse
  outputs := shopConfig.outputs.reverse
  displays := shopConfig.displays.reverse
  queries := shopConfig.queries.reverse
  widgets := shopConfig.widgets.reverse
  dashboards := shopConfig.dashboards.reverse

/-- The shop compiles to the same records from both ends, though to other orders of them. -/
theorem ofConfig_perm_shop :
    shopConfig.Perm reversedShop ∧
      ∃ compiled compiled', (ofConfig shopConfig).result = .ok compiled ∧
        (ofConfig reversedShop).result = .ok compiled' ∧ compiled.Perm compiled' ∧
        compiled.outputs.names = ["count", "share"] ∧
        compiled'.outputs.names = ["share", "count"] := by
  have hperm : shopConfig.Perm reversedShop :=
    ⟨Table.perm_reverse _, Table.perm_reverse _, Table.perm_reverse _, Table.perm_reverse _,
      Table.perm_reverse _, Table.perm_reverse _⟩
  have hresult : (ofConfig shopConfig).result.toOption.map (·.outputs.names) =
      some ["count", "share"] := by decide +kernel
  have hresult' : (ofConfig reversedShop).result.toOption.map (·.outputs.names) =
      some ["share", "count"] := by decide +kernel
  refine ⟨hperm, ?_⟩
  rcases ofConfig_perm hperm with
    ⟨compiled, compiled', h, h', hcompiled⟩ | ⟨stage, e, e', h, -⟩
  · rw [h] at hresult
    rw [h'] at hresult'
    exact ⟨compiled, compiled', h, h', hcompiled, Option.some.inj hresult,
      Option.some.inj hresult'⟩
  · rw [h] at hresult
    cases hresult

end Compiled

end Dashboards
