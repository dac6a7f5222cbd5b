import Dashboards.Compiled
import Dashboards.Proofs.Sequence

/-!
# Stages of a compilation

A configuration is compiled in six stages, each of which adds a table to those before it or fails
(`Stage.run`). A compilation is the run of all stages in their order (`result_ofConfig`); so one
that fails does so in one stage, after those before it have succeeded (`FailsIn`).
-/

namespace Dashboards.Compiled

/-- The stages of a compilation. -/
inductive Stage where
  | filters | outputs | displays | queries | widgets | dashboards
deriving DecidableEq

namespace Stage

/-- All stages, in order. -/
def all : List Stage := [.filters, .outputs, .displays, .queries, .widgets, .dashboards]

/-- The tables with that of a stage. -/
def run (config : Config) (compiled : Compiled) : Stage → Except Error Compiled
  | filters => (Filter.compile config.filters).result.map fun filters => { compiled with filters }
  | outputs => (OutputSelection.compile config.outputs compiled.filters).result.map fun outputs =>
      { compiled with outputs }
  | displays => (Display.compile config.displays).map fun displays => { compiled with displays }
  | queries => (Query.compile config.queries compiled.components).result.map fun queries =>
      { compiled with queries }
  | widgets => (WidgetDefinition.compile config.widgets compiled.queries compiled.components).map
      fun widgets => { compiled with widgets }
  | dashboards => (Dashboard.compile config.dashboards compiled.placeable).result.map
      fun dashboards => { compiled with dashboards }

end Stage

/-- Runs stages one after the other. A failure comes with its stage. -/
def runStages (config : Config) : List Stage → Compiled → Except (Stage × Error) Compiled
  | [], compiled => .ok compiled
  | stage :: rest, compiled =>
    match stage.run config compiled with
    | .ok compiled => runStages config rest compiled
    | .error e => .error (stage, e)

/-- A compilation fails in a stage with an error. -/
def FailsIn (config : Config) (stage : Stage) (e : Error) : Prop :=
  runStages config Stage.all {} = .error (stage, e)

variable {config : Config} {compiled : Compiled} {stage : Stage} {rest : List Stage}

/-- After a stage that succeeds the others run on its tables. -/
theorem runStages_of_ok {next : Compiled} (h : stage.run config compiled = .ok next) :
    runStages config (stage :: rest) compiled = runStages config rest next := by
  rw [runStages, h]

/-- A stage that fails is the last one. -/
theorem runStages_of_error {e : Error} (h : stage.run config compiled = .error e) :
    runStages config (stage :: rest) compiled = .error (stage, e) := by
  rw [runStages, h]

/-- Stages fail exactly if one of them does on the tables of those before it. -/
theorem runStages_eq_error_iff {stages : List Stage} {start : Compiled} {e : Error} :
    runStages config stages start = .error (stage, e) ↔
      ∃ before after compiled, stages = before ++ stage :: after ∧
        runStages config before start = .ok compiled ∧ stage.run config compiled = .error e := by
  constructor
  · intro h
    induction stages generalizing start with
    | nil => cases h
    | cons first rest ih =>
      cases hrun : first.run config start with
      | error e' =>
        rw [runStages_of_error hrun] at h
        cases h
        exact ⟨[], rest, start, rfl, rfl, hrun⟩
      | ok next =>
        rw [runStages_of_ok hrun] at h
        obtain ⟨before, after, compiled, rfl, hbefore, hfails⟩ := ih h
        exact ⟨first :: before, after, compiled, rfl, (runStages_of_ok hrun).trans hbefore, hfails⟩
  · rintro ⟨before, after, compiled, rfl, hbefore, hfails⟩
    induction before generalizing start with
    | nil =>
      cases hbefore
      exact runStages_of_error hfails
    | cons first before ih =>
      cases hrun : first.run config start with
      | error e' =>
        rw [runStages_of_error hrun] at hbefore
        cases hbefore
      | ok next =>
        rw [runStages_of_ok hrun] at hbefore
        rw [List.cons_append, runStages_of_ok hrun]
        exact ih hbefore

/-- What is run after a stage gives what the stage and the others give. -/
theorem mapError_runStages_cons :
    (runStages config (stage :: rest) compiled).mapError Prod.snd =
      (stage.run config compiled).bind fun next =>
        (runStages config rest next).mapError Prod.snd := by
  cases h : stage.run config compiled with
  | ok next => rw [runStages_of_ok h, Except.bind]
  | error e => rw [runStages_of_error h, Except.bind, Except.mapError]

/-- A configuration is compiled by running all stages. -/
theorem result_ofConfig (config : Config) :
    (ofConfig config).result = (runStages config Stage.all {}).mapError Prod.snd := by
  simp only [Stage.all, mapError_runStages_cons, Stage.run, ← bind_pure_eq_map]
  simp only [ofConfig, withFilters, withOutputs, withDisplays, withQueries, withWidgets,
    withDashboards, Traced.result_bind, Traced.result_pure, Traced.result_lift, Traced.result_debug]
  rfl

/-- A compilation fails with an error exactly if it does so in a stage. -/
theorem result_eq_error_iff {e : Error} :
    (ofConfig config).result = .error e ↔ ∃ stage, FailsIn config stage e := by
  rw [result_ofConfig]
  cases hrun : runStages config Stage.all {} with
  | ok compiled => simp [FailsIn, hrun, Except.mapError]
  | error failure => simp [FailsIn, hrun, Except.mapError, Prod.ext_iff]

/-- A compilation that fails does so in a stage. -/
theorem result_of_failsIn {e : Error} (h : FailsIn config stage e) :
    (ofConfig config).result = .error e := by
  rw [result_ofConfig, h]
  rfl

end Dashboards.Compiled
