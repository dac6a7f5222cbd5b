import Dashboards.Proofs.Document.Placements
import Dashboards.Proofs.Document.Reachability
import Dashboards.Proofs.Document.Sites
import Dashboards.Proofs.Document.Stages
import Dashboards.Proofs.Output.Grammar

/-!
# Where compilations fail

A compilation that fails does so at an entry: the first one of a stage that cannot be read on the
tables of the stages before it, or, if all filters can be read, at the filters that are unresolvable
(`FailsAt`). The message of the error then has the names of these entries in it, for a query in
place that of the reusable widget or dashboard that holds it. One kind of error makes an exception:
a visualization that is not known is reported by the text that was given, without the entry that
gives it (`localized_of_ofConfig`).
-/

namespace Dashboards

open Text (Occurs)

/-! ## Visualizations that are declared -/

namespace Config

/-- The visualization that a reference gives to a query in place. -/
def QueryReference.visualizations (reference : QueryReference) : List String :=
  (reference.inline?.bind Query.visualization).toList

/-- The visualization that a reusable widget gives to a query in place. -/
def Widget.visualizations (widget : Widget) : List String :=
  widget.query.toList.flatMap QueryReference.visualizations

/-- The visualization that a placement gives to a query in place. -/
def Placement.visualizations (placement : Placement) : List String :=
  placement.query.toList.flatMap QueryReference.visualizations

/-- The visualizations that a dashboard gives to queries in place. -/
def Dashboard.visualizations (dashboard : Dashboard) : List String :=
  dashboard.widgets.flatMap Placement.visualizations

/-- The name of an entry. -/
def Entry.name : Entry → String
  | filter name | output name | display name | query name | widget name | dashboard name => name

/-- An entry is declared in its section. -/
def Declares (config : Config) : Entry → Prop
  | .filter name => name ∈ config.filters.names
  | .output name => name ∈ config.outputs.names
  | .display name => name ∈ config.displays.names
  | .query name => name ∈ config.queries.names
  | .widget name => name ∈ config.widgets.names
  | .dashboard name => name ∈ config.dashboards.names

/-- The texts that an entry gives as visualizations. -/
def visualizations (config : Config) : Entry → List String
  | .filter _ | .output _ => []
  | .display name => (config.displays.get? name).toList.flatMap (·.visualization.toList)
  | .query name => (config.queries.get? name).toList.flatMap (·.visualization.toList)
  | .widget name => (config.widgets.get? name).toList.flatMap Widget.visualizations
  | .dashboard name => (config.dashboards.get? name).toList.flatMap Dashboard.visualizations

end Config

/-! ## Errors of entries -/

/-- An error tells where it comes from: it is about something that has the name in it, or it has one
of the texts that are given as visualizations and that is not known. -/
def Error.Tells (name : String) (texts : List String) (e : Error) : Prop :=
  (∃ subject ∈ e.subjects, Occurs name subject) ∨
    ∃ text ∈ texts, Visualization.ofText? text = none ∧ e = .visualization (.unknown text)

/-- An error that is about one entry tells where it comes from. -/
theorem Error.tells_of_subjects {e : Error} {name : String} {texts : List String}
    (h : e.subjects = [name]) : e.Tells name texts := by
  refine .inl ⟨name, ?_, Occurs.refl name⟩
  rw [h]
  exact List.mem_singleton_self name

/-- What tells a name also tells a name that is in it. -/
theorem Error.Tells.imp {e : Error} {name placeName : String} {texts more : List String}
    (h : e.Tells placeName texts) (hname : Occurs name placeName) (htexts : texts ⊆ more) :
    e.Tells name more := by
  obtain ⟨subject, hsubject, hoccurs⟩ | ⟨text, hmem, hunknown⟩ := h
  · exact .inl ⟨subject, hsubject, hname.trans hoccurs⟩
  · exact .inr ⟨text, htexts hmem, hunknown⟩

/-- The error of a text that is no visualization has the text. -/
theorem Visualization.failsWith_ofText {name text : String} {texts : List String}
    (h : text ∈ texts) : FailsWith (Error.Tells name texts) (ofText text) := by
  rw [ofText]
  cases hunknown : ofText? text with
  | some visualization => exact .ok visualization
  | none => exact .error (.inr ⟨text, h, hunknown, rfl⟩)

/-- Errors of a display tell the display. -/
theorem Display.failsWith_ofConfig (name : String) (declared : Config.Display) :
    FailsWith (Error.Tells name declared.visualization.toList) (ofConfig name declared) := by
  rw [ofConfig]
  cases declared.visualization with
  | none => exact .error (Error.tells_of_subjects rfl)
  | some text =>
    exact .bind (Visualization.failsWith_ofText (List.mem_singleton_self _)) fun _ _ => .ok _

/-! ## Queries -/

namespace Query

/-- What a check of a query finds tells the query. -/
theorem Finds.tells {name : String} {declared : Config.Query} {components : Components}
    {check : Check} {e : Error} (h : Finds name declared components check e) :
    e.Tells name declared.visualization.toList := by
  cases h with
  | visualization htext hunknown => exact .inr ⟨_, by simp [htext], hunknown, rfl⟩
  | _ => exact Error.tells_of_subjects rfl

/-- Errors of a query tell the query. -/
theorem failsWith_ofConfig (name : String) (declared : Config.Query) (components : Components) :
    FailsWith (Error.Tells name declared.visualization.toList)
      (ofConfig name declared components) :=
  performs_ofConfig.failsWith fun _ _ => Finds.tells

/-- Errors of a reference tell what holds it: the name of a query in place starts with the name of
its holder. -/
theorem failsWith_ofReference (holder : String) {placeName : String}
    {reference : Config.QueryReference} {queries : QueryTable} {components : Components}
    {unknown : String → WidgetFault} (hunknown : ∀ query, (unknown query).holder = holder)
    (hplace : Occurs holder placeName) :
    FailsWith (Error.Tells holder reference.visualizations)
      (ofReference reference placeName queries components unknown) := by
  cases reference with
  | named query =>
    rw [ofReference]
    cases queries.get? query with
    | some record => exact .ok record
    | none =>
      refine .error (Error.tells_of_subjects ?_)
      rw [Error.subjects, hunknown]
  | inline declared =>
    refine (failsWith_ofConfig placeName declared components).imp fun e htells => ?_
    exact htells.imp hplace (List.Subset.refl _)

end Query

/-! ## Widgets and dashboards -/

/-- Errors of a reusable widget tell the widget. -/
theorem WidgetDefinition.failsWith_ofConfig (name : String) (declared : Config.Widget)
    (queries : QueryTable) (components : Components) :
    FailsWith (Error.Tells name declared.visualizations)
      (ofConfig name declared queries components) := by
  rw [ofConfig, Config.Widget.visualizations]
  cases declared.query with
  | none => exact .error (Error.tells_of_subjects rfl)
  | some reference =>
    refine .bind ?_ fun query _ => .ok _
    simpa using Query.failsWith_ofReference name (fun _ => rfl) (Occurs.refl name).append_left

/-- What a check of a placement finds tells the dashboard. -/
theorem Widget.Finds.tells {dashboard : String} {position : Nat} {declared : Config.Placement}
    {tables : Placeable} {check : Check} {e : Error}
    (h : Finds dashboard position declared tables check e) :
    e.Tells dashboard declared.visualizations := by
  cases h with
  | @inline query e hquery herror =>
    have hplace : Occurs dashboard s!"{dashboard}-inline-query-{position + 1}" :=
      (Occurs.refl dashboard).append_left.append_left
    have hgives : declared.visualizations = query.visualization.toList := by
      simp [Config.Placement.visualizations, hquery, Config.QueryReference.visualizations,
        Config.QueryReference.inline?]
    rw [hgives]
    exact (Query.failsWith_ofConfig _ query _ e herror).imp hplace (List.Subset.refl _)
  | _ => exact Error.tells_of_subjects rfl

/-- Errors of a dashboard tell the dashboard. -/
theorem Dashboard.failsWith_ofConfig (name : String) (declared : Config.Dashboard)
    (tables : Placeable) :
    FailsWith (Error.Tells name declared.visualizations) (ofConfig name declared tables) := by
  intro e herror
  cases ofConfig_eq_error_iff.1 herror with
  | title _ => exact Error.tells_of_subjects rfl
  | @placement before after placement _ _ hwidgets _ hfound =>
    obtain ⟨check, -, hfinds⟩ := hfound.exists_finds
    refine hfinds.tells.imp (Occurs.refl name) fun text htext => ?_
    rw [Config.Dashboard.visualizations, hwidgets]
    exact List.mem_flatMap.2 ⟨placement, by simp, htext⟩

/-! ## Stages -/

/-- All filters of a section can be read, some are unresolvable, and the error has their names. -/
structure Filter.HasUnresolvable (configs : Table Config.Filter) (e : Error) : Prop where
  read : ∃ results, readEntries readEntry configs.entries = .ok results
  nonempty : unresolvableNames configs ≠ []
  error : e = .extendingFilter (.unresolvable (unresolvableNames configs))

/-- A section of filters does not compile exactly if a declaration is the first that cannot be read,
or if all can be read and some filters are unresolvable. -/
theorem Filter.compile_eq_error_iff {configs : Table Config.Filter} {e : Error} :
    (compile configs).result = .error e ↔
      (∃ name, FirstFails readEntry configs name e) ∨ HasUnresolvable configs e := by
  rw [← readEntries_eq_error_iff]
  cases hread : readEntries readEntry configs.entries with
  | error e' =>
    rw [compile_of_error hread]
    constructor
    · rintro ⟨⟩
      exact .inl rfl
    · rintro (⟨⟨⟩⟩ | ⟨⟨results, hok⟩, -, -⟩)
      · rfl
      · cases hread.symm.trans hok
  | ok results =>
    obtain ⟨n, s, t, hs, hpasses, hdone, hresult⟩ := compile_of_ok hread
    have hnames := pending_names_eq hread hs hpasses hdone
    have houtcome : t.outcome = .error e ↔ unresolvableNames configs ≠ [] ∧
        e = .extendingFilter (.unresolvable (unresolvableNames configs)) := by
      rw [Progress.outcome, ← hnames]
      cases t.pending <;> simp [@eq_comm _ e]
    rw [hresult, houtcome]
    constructor
    · rintro ⟨hne, he⟩
      exact .inr ⟨⟨results, hread⟩, hne, he⟩
    · rintro (⟨⟨⟩⟩ | ⟨-, hne, he⟩)
      exact ⟨hne, he⟩

namespace Compiled

variable {config : Config} {compiled : Compiled} {name : String} {e : Error}

namespace Stage

/-- The entry of a name in the section of a stage. -/
def entry : Stage → String → Config.Entry
  | filters => .filter
  | outputs => .output
  | displays => .display
  | queries => .query
  | widgets => .widget
  | dashboards => .dashboard

/-- The entry of a name has this name. -/
@[simp]
theorem name_entry (stage : Stage) (name : String) : (stage.entry name).name = name := by
  cases stage <;> rfl

/-- The first entry of a stage that cannot be read on the tables of the stages before, with the
error of its reading. -/
def FirstFails (config : Config) (compiled : Compiled) (name : String) (e : Error) : Stage → Prop
  | filters => Dashboards.FirstFails Filter.readEntry config.filters name e
  | outputs => Dashboards.FirstFails (fun name => OutputSelection.ofValue name compiled.filters)
      config.outputs name e
  | displays => Dashboards.FirstFails Display.ofConfig config.displays name e
  | queries => Dashboards.FirstFails
      (fun name declared => Query.ofConfig name declared compiled.components) config.queries name e
  | widgets => Dashboards.FirstFails
      (fun name declared =>
        WidgetDefinition.ofConfig name declared compiled.queries compiled.components)
      config.widgets name e
  | dashboards => Dashboards.FirstFails
      (fun name declared => Dashboard.ofConfig name declared compiled.placeable)
      config.dashboards name e

/-- A stage fails exactly at its first entry that cannot be read, or at unresolvable filters. -/
theorem run_eq_error_iff {stage : Stage} :
    stage.run config compiled = .error e ↔
      (∃ name, stage.FirstFails config compiled name e) ∨
        (stage = .filters ∧ Filter.HasUnresolvable config.filters e) := by
  cases stage <;> simp only [run, map_eq_error_iff, reduceCtorEq, false_and, or_false, true_and]
  case filters => exact Filter.compile_eq_error_iff
  case outputs => exact Table.section_eq_error_iff (OutputSelection.compile_entries _ _)
  case displays => exact Table.section_eq_error_iff (Display.compile_entries _)
  case queries => exact Table.section_eq_error_iff (Query.compile_entries _ _)
  case widgets => exact Table.section_eq_error_iff (WidgetDefinition.compile_entries _ _ _)
  case dashboards => exact Table.section_eq_error_iff (Dashboard.compile_entries _ _)

/-- The first entry of a stage that cannot be read is declared. -/
theorem FirstFails.declares {stage : Stage} (h : stage.FirstFails config compiled name e) :
    config.Declares (stage.entry name) := by
  cases stage <;> rw [FirstFails] at h <;> exact h.mem_names

/-- The error of the first entry of a stage that cannot be read tells the entry. -/
theorem FirstFails.tells {stage : Stage} (h : stage.FirstFails config compiled name e) :
    e.Tells name (config.visualizations (stage.entry name)) := by
  cases stage with
  | filters =>
    rw [FirstFails] at h
    obtain ⟨declared, -, hread⟩ := h.exists_config
    have hfilters := (Filter.readEntry_error hread).2
    refine Error.tells_of_subjects ((Error.subjects_eq_filters ?_).trans hfilters)
    rw [hfilters]
    exact List.cons_ne_nil _ _
  | outputs =>
    rw [FirstFails] at h
    obtain ⟨declared, -, hread⟩ := h.exists_config
    obtain ⟨fault, rfl, hfault⟩ := OutputSelection.failsWith_ofValue name _ declared e hread
    exact Error.tells_of_subjects (congrArg (fun output => [output]) hfault)
  | displays =>
    rw [FirstFails] at h
    obtain ⟨declared, hdeclared, hread⟩ := h.exists_config
    simpa [Config.visualizations, entry, hdeclared] using
      Display.failsWith_ofConfig name declared e hread
  | queries =>
    rw [FirstFails] at h
    obtain ⟨declared, hdeclared, hread⟩ := h.exists_config
    simpa [Config.visualizations, entry, hdeclared] using
      Query.failsWith_ofConfig name declared _ e hread
  | widgets =>
    rw [FirstFails] at h
    obtain ⟨declared, hdeclared, hread⟩ := h.exists_config
    simpa [Config.visualizations, entry, hdeclared] using
      WidgetDefinition.failsWith_ofConfig name declared _ _ e hread
  | dashboards =>
    rw [FirstFails] at h
    obtain ⟨declared, hdeclared, hread⟩ := h.exists_config
    simpa [Config.visualizations, entry, hdeclared] using
      Dashboard.failsWith_ofConfig name declared _ e hread

end Stage

/-! ## Documents -/

/-- Where a compilation fails with an error. -/
inductive FailsAt (config : Config) (e : Error) : List Config.Entry → Prop
  /-- At the first entry of a stage that cannot be read, after the stages before. -/
  | entry {before after : List Stage} {stage : Stage} {compiled : Compiled} {name : String} :
      Stage.all = before ++ stage :: after → runStages config before {} = .ok compiled →
      stage.FirstFails config compiled name e → FailsAt config e [stage.entry name]
  /-- At all unresolvable filters, if all filters can be read. -/
  | unresolvable : Filter.HasUnresolvable config.filters e →
      FailsAt config e ((Filter.unresolvableNames config.filters).map .filter)

/-- A configuration does not compile exactly if it fails somewhere. -/
theorem result_eq_error_iff_failsAt :
    (ofConfig config).result = .error e ↔ ∃ entries, FailsAt config e entries := by
  simp only [result_eq_error_iff, FailsIn, runStages_eq_error_iff, Stage.run_eq_error_iff]
  constructor
  · rintro ⟨stage, before, after, compiled, hall, hbefore, ⟨name, hfirst⟩ | ⟨-, hunresolvable⟩⟩
    · exact ⟨_, .entry hall hbefore hfirst⟩
    · exact ⟨_, .unresolvable hunresolvable⟩
  · rintro ⟨_, ⟨hall, hbefore, hfirst⟩ | hunresolvable⟩
    · exact ⟨_, _, _, _, hall, hbefore, .inl ⟨_, hfirst⟩⟩
    · exact ⟨.filters, [], _, {}, rfl, rfl, .inr ⟨rfl, hunresolvable⟩⟩

/-- A compilation fails at entries that are declared. -/
theorem FailsAt.declares {entries : List Config.Entry} (h : FailsAt config e entries) :
    ∀ entry ∈ entries, config.Declares entry := by
  intro entry hentry
  cases h with
  | entry _ _ hfirst =>
    rw [List.mem_singleton.1 hentry]
    exact hfirst.declares
  | unresolvable _ =>
    obtain ⟨name, hname, rfl⟩ := List.mem_map.1 hentry
    exact List.mem_of_mem_filter hname

/-- A compilation that fails does so at some declared entries. The message of its error has their
names, unless it is about a visualization that is not known; then the error has the text that the
one entry where it fails gives. -/
theorem localized_of_ofConfig (h : (ofConfig config).result = .error e) :
    ∃ entries, FailsAt config e entries ∧ entries ≠ [] ∧
      (∀ entry ∈ entries, config.Declares entry) ∧
      ((∀ text, e ≠ .visualization (.unknown text)) →
        ∀ entry ∈ entries, Occurs entry.name e.message) ∧
      ∀ text, e = .visualization (.unknown text) →
        ∃ entry, entries = [entry] ∧ text ∈ config.visualizations entry ∧
          Visualization.ofText? text = none := by
  obtain ⟨entries, hfails⟩ := result_eq_error_iff_failsAt.1 h
  have hdeclares := hfails.declares
  refine ⟨entries, hfails, ?_⟩
  cases hfails with
  | @entry _ _ stage _ name _ _ hfirst =>
    refine ⟨List.cons_ne_nil _ _, hdeclares, fun hknown entry hentry => ?_, fun text htext => ?_⟩
    · obtain ⟨subject, hsubject, hoccurs⟩ | ⟨text, -, -, he⟩ := hfirst.tells
      · rw [List.mem_singleton.1 hentry, Stage.name_entry]
        exact hoccurs.trans (Error.occurs_of_mem_subjects hsubject)
      · exact absurd he (hknown text)
    · subst htext
      -- Such an error is about nothing with a name, so all that it tells is the text.
      obtain ⟨subject, ⟨⟩, -⟩ | ⟨given, hgiven, hunknown, heq⟩ := hfirst.tells
      cases heq
      exact ⟨stage.entry name, rfl, hgiven, hunknown⟩
  | unresolvable hunresolvable =>
    obtain ⟨-, hne, rfl⟩ := hunresolvable
    refine ⟨by simpa using hne, hdeclares, fun _ entry hentry => ?_,
      fun text htext => nomatch htext⟩
    obtain ⟨name, hname, rfl⟩ := List.mem_map.1 hentry
    exact Error.occurs_of_mem_subjects hname

/-- A dashboard with a query in place that has no title. -/
def untitledConfig : Config where
  dashboards := Table.ofList [
    ("shop",
      { title := some "Shop",
        widgets := [
          { query := some (.inline { nrql := some "SELECT 1", visualization := some "list" }),
            row := some 1, column := some 1, width := some 4, height := some 3 }] })]

/-- The message of the example has the name of the dashboard, in that of the query. -/
theorem localized_of_ofConfig_untitled :
    ∃ e entries, (ofConfig untitledConfig).result = .error e ∧ FailsAt untitledConfig e entries ∧
      entries ≠ [] ∧ (∀ entry ∈ entries, Occurs entry.name e.message) ∧
      e.message =
        "invalid query configuration: field title is required for query shop-inline-query-1" := by
  have hresult : (ofConfig untitledConfig).result =
      .error (.query (.fieldMissing "title" "shop-inline-query-1")) := rfl
  obtain ⟨entries, hfails, hne, -, hknown, -⟩ := localized_of_ofConfig hresult
  exact ⟨_, entries, hresult, hfails, hne, hknown fun text => by simp, rfl⟩

/-- A display with a visualization that is not known. -/
def sparklineConfig : Config where
  displays := Table.ofList [("trend", { visualization := some "sparkline" })]

/-- A compilation may fail with a message that has the name of no entry at all: the example fails at
its display, and the message has only the text that is given there. -/
theorem unknown_visualization_not_localized :
    ∃ e, (ofConfig sparklineConfig).result = .error e ∧
      e.message = "invalid visualization: unknown visualization 'sparkline'" ∧
      FailsAt sparklineConfig e [.display "trend"] ∧
      ∀ entry, sparklineConfig.Declares entry → ¬ Occurs entry.name e.message := by
  have hall : Stage.all =
      [.filters, .outputs] ++ .displays :: [.queries, .widgets, .dashboards] := rfl
  have hbefore : runStages sparklineConfig [.filters, .outputs] {} = .ok {} := rfl
  have hfirst : Stage.displays.FirstFails sparklineConfig {} "trend"
      (.visualization (.unknown "sparkline")) :=
    ⟨[], _, [], rfl, List.forall_mem_nil _, rfl⟩
  have hmessage : ¬ Occurs "trend" "invalid visualization: unknown visualization 'sparkline'" := by
    decide +kernel
  refine ⟨_, rfl, rfl, .entry hall hbefore hfirst, fun entry hdeclares => ?_⟩
  cases entry with
  | display name =>
    cases List.mem_singleton.1 hdeclares
    exact hmessage
  | _ => cases hdeclares

end Compiled

end Dashboards
