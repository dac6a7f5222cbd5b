import Dashboards.Proofs.Api.Payloads
import Dashboards.Proofs.CommandLine.Lint
import Dashboards.Proofs.Document.Declared

/-!
# Commands agree on documents

The commands load a document in the same way, so `lint` accepts it exactly if `render` prints its
payloads and exactly if `build` goes on to its dashboards, and else all of them report one error.
What `render` prints is read back as the array of the payloads, one for each dashboard that the
document declares. What `build` submits is this array in its order, as far as it gets, whatever
answers its requests (`commands_agree`).
-/

namespace Dashboards.CommandLine

variable {files : Files} {path : String} {client : Api.Client}

/-! ## What the commands do with a document -/

/-- What `lint` says of a document, among whatever other documents it checks. -/
def LintSays (files : Files) (path said : String) : Prop :=
  ∀ before after, (lint files (before ++ path :: after)).printed =
    (lint files before).printed ++ (path ++ ": " ++ said ++ "\n") ++ (lint files after).printed

/-- `lint` says of a document what its verdict is. -/
theorem lintSays_iff {said : String} :
    LintSays files path said ↔
      verdict path (Compiled.load files path).result = path ++ ": " ++ said ++ "\n" := by
  have hprinted : ∀ before after, (lint files (before ++ path :: after)).printed =
      (lint files before).printed ++ verdict path (Compiled.load files path).result ++
        (lint files after).printed := by
    intro before after
    simp only [printed_lint, List.map_append, List.map_cons, String.join_append,
      String.join_cons, String.append_assoc, reportLine]
  constructor
  · intro h
    have hsingle := (hprinted [] []).symm.trans (h [] [])
    simpa [printed_lint] using hsingle
  · intro h before after
    rw [hprinted, h]

/-- `lint` says that a document is fine exactly if it is loaded. -/
theorem lintSays_ok_iff :
    LintSays files path "ok" ↔ ∃ compiled, (Compiled.load files path).result = .ok compiled := by
  rw [lintSays_iff]
  cases h : (Compiled.load files path).result with
  | ok compiled =>
    refine iff_of_true ?_ ⟨compiled, rfl⟩
    simp only [verdict, String.append_assoc]
    rfl
  | error error =>
    refine iff_of_false (fun hsaid => ?_) nofun
    simp only [verdict, String.append_assoc] at hsaid
    have hrest : ": error: " ++ (error.message ++ "\n") = ": ok\n" :=
      (String.append_right_inj path).1 hsaid
    simpa using congrArg String.toList hrest

/-- `lint` says why a document is not loaded. -/
theorem lintSays_error {error : Error} (h : (Compiled.load files path).result = .error error) :
    LintSays files path ("error: " ++ error.message) := by
  rw [lintSays_iff, h]
  simp only [verdict, String.append_assoc]
  rfl

/-- `render` prints the payloads of a document that is loaded. -/
theorem render_of_ok {compiled : Compiled} (h : (Compiled.load files path).result = .ok compiled)
    (account : Nat) (pretty : Bool) :
    render files path account pretty =
      ⟨if pretty then (payloads account compiled).pretty else (payloads account compiled).compact,
        .success⟩ := by
  rw [render, h]
  rfl

/-- `render` fails with the error of a document that is not loaded. -/
theorem render_of_error {error : Error} (h : (Compiled.load files path).result = .error error)
    (account : Nat) (pretty : Bool) :
    render files path account pretty = ⟨"", .failure error⟩ := by
  rw [render, h]
  rfl

/-- `build` goes on to the dashboards of a document that is loaded. -/
theorem build_of_ok {compiled : Compiled} (h : (Compiled.load files path).result = .ok compiled) :
    build files path client = client.reconcileAll compiled.dashboards := by
  rw [build, h]
  rfl

/-- `build` fails with the error of a document that is not loaded. -/
theorem build_of_error {error : Error} (h : (Compiled.load files path).result = .error error) :
    build files path client = .done (.error error) := by
  rw [build, h]
  rfl

/-! ## What is printed -/

/-- The payloads of a document that is loaded are plain. -/
theorem isPlain_payloads {compiled : Compiled}
    (h : (Compiled.load files path).result = .ok compiled) {account : Nat}
    (haccount : account < UInt64.size) : Json.IsPlain 7 (payloads account compiled) := by
  refine .array fun item hitem => ?_
  obtain ⟨dashboard, hdashboard, rfl⟩ := List.mem_map.1 hitem
  exact Dashboard.isPlain_payload haccount (Compiled.fits_of_load h dashboard hdashboard)

/-- What is printed of a document is read back as the array of its payloads. -/
theorem ofText_printed {compiled : Compiled}
    (h : (Compiled.load files path).result = .ok compiled) {account : Nat}
    (haccount : account < UInt64.size) (pretty : Bool) :
    Json.ofText (render files path account pretty).printed = .ok (payloads account compiled) := by
  have hplain := isPlain_payloads h haccount
  rw [render_of_ok h]
  cases pretty with
  | true => exact Json.ofText_pretty hplain (by decide)
  | false => exact Json.ofText_compact hplain (by decide)

/-- Dashboards of a document that is loaded are the declared ones in their order, and so are their
payloads. -/
theorem forall₂_payload {config : Config} {compiled : Compiled}
    (h : config.dashboards? = some compiled.dashboards.entries) (account : Nat) :
    List.Forall₂ (fun entry item => ∃ dashboard,
        config.dashboard? entry.1 entry.2 = some dashboard ∧ item = dashboard.payload account)
      config.dashboards.entries (compiled.dashboards.records.map (Dashboard.payload account)) := by
  rw [List.forall₂_map_right_iff, Table.records, List.forall₂_map_right_iff]
  refine (mapM_eq_some_iff.1 h).imp fun entry result hentry => ?_
  simp only [Option.bind_eq_bind, Option.bind_eq_some_iff, Option.pure_def,
    Option.some.injEq] at hentry
  obtain ⟨dashboard, hdashboard, rfl⟩ := hentry
  exact ⟨dashboard, hdashboard, rfl⟩

/-! ## Agreement -/

section
variable (files : Files) (path : String) (client : Api.Client)

/-- All commands refuse a document and report one error. -/
structure Refuse (error : Error) : Prop where
  lint_says : LintSays files path ("error: " ++ error.message)
  render_eq : ∀ pretty, render files path client.account pretty = ⟨"", .failure error⟩
  /-- Nothing is sent. -/
  build_eq : build files path client = .done (.error error)
  /-- The command ends as that for printing does, whatever would have answered. -/
  run_build : ∀ (σ : Type) (transport : Api.Transport σ) (state : σ),
    (Command.build path client).run files transport state = (⟨"", .failure error⟩, state)

/-- All commands accept a document and agree on what is submitted for it. -/
structure Accept (items : List Json) : Prop where
  /-- What is printed, compactly or prettily, is read back as an array. -/
  printed : ∀ pretty, Json.ofText (render files path client.account pretty).printed =
    .ok (.array items)
  /-- The elements are the payloads of the declared dashboards in their order. -/
  declared : ∃ text config, files path = .ok text ∧ Config.declared? text = some config ∧
    List.Forall₂ (fun entry item => ∃ dashboard,
        config.dashboard? entry.1 entry.2 = some dashboard ∧
          item = dashboard.payload client.account)
      config.dashboards.entries items
  /-- Whatever answers, what is posted and put are the first elements. -/
  bodies_isPrefix : ∀ (σ : Type) (transport : Api.Transport σ) (state : σ),
    Api.bodies ((build files path client).run transport state).sent <+: items.map some
  /-- If all goes well, these are all elements. -/
  bodies_eq : ∀ (σ : Type) (transport : Api.Transport σ) (state : σ),
    ((build files path client).run transport state).result.isOk →
      Api.bodies ((build files path client).run transport state).sent = items.map some
  /-- What goes wrong is an answer or a fault of the interface, never the writing of a payload. -/
  error_cases : ∀ (σ : Type) (transport : Api.Transport σ) (state : σ) (error : Error),
    ((build files path client).run transport state).result = .error error →
      (∃ exchange ∈ transport.exchanges
          ((build files path client).run transport state).sent state,
        exchange.answer = .error error) ∨ Api.IsApiFault error

end

/-- A document that is not loaded is refused by all commands. -/
theorem refuse_of_error {error : Error} (h : (Compiled.load files path).result = .error error) :
    Refuse files path client error where
  lint_says := lintSays_error h
  render_eq := render_of_error h client.account
  build_eq := build_of_error h
  run_build _ _ _ := by
    rw [Command.run, build_of_error h]
    rfl

/-- A document that is loaded is accepted by all commands. -/
theorem accept_of_ok {compiled : Compiled} (h : (Compiled.load files path).result = .ok compiled)
    (haccount : client.account < UInt64.size) :
    Accept files path client
      (compiled.dashboards.records.map (Dashboard.payload client.account)) := by
  obtain ⟨text, config, hfile, hconfig, hdashboards⟩ := Compiled.exists_declared_of_load h
  have hbodies := fun (σ : Type) (transport : Api.Transport σ) state =>
    client.bodies_run compiled.dashboards transport state
  refine ⟨ofText_printed h haccount,
    ⟨text, config, hfile, hconfig, forall₂_payload hdashboards client.account⟩, ?_, ?_, ?_⟩
  all_goals
    intro σ transport state
    rw [build_of_ok h]
  · rw [List.map_map]
    exact (hbodies σ transport state).1
  · rw [List.map_map]
    exact (hbodies σ transport state).2
  · exact fun error herror => Api.Client.error_run herror

/-- Of every file the commands report the same: `lint` accepts it exactly if `render` succeeds and
exactly if `build` starts to reconcile dashboards, and else all of them report one error. What they
accept is printed as an array of the payloads of the declared dashboards, and submitted in its
order. -/
theorem commands_agree (files : Files) (path : String) (client : Api.Client)
    (haccount : client.account < UInt64.size) :
    (∀ pretty, LintSays files path "ok" ↔
      (render files path client.account pretty).ending = .success) ∧
    (LintSays files path "ok" ↔
      ∃ dashboards, build files path client = client.reconcileAll dashboards) ∧
    (¬ LintSays files path "ok" → ∃ error, Refuse files path client error) ∧
    (LintSays files path "ok" → ∃ items, Accept files path client items) := by
  cases hload : (Compiled.load files path).result with
  | error error =>
    have hrefused : ¬ LintSays files path "ok" := by
      rw [lintSays_ok_iff, hload]
      exact nofun
    refine ⟨fun pretty => ?_, ?_, fun _ => ⟨error, refuse_of_error hload⟩,
      fun hok => absurd hok hrefused⟩
    · rw [render_of_error hload]
      exact iff_of_false hrefused nofun
    · rw [build_of_error hload]
      exact iff_of_false hrefused nofun
  | ok compiled =>
    have hok : LintSays files path "ok" := lintSays_ok_iff.2 ⟨compiled, hload⟩
    refine ⟨fun pretty => ?_, iff_of_true hok ⟨compiled.dashboards, build_of_ok hload⟩,
      fun hrefused => absurd hok hrefused, fun _ => ⟨_, accept_of_ok hload haccount⟩⟩
    rw [render_of_ok hload]
    exact iff_of_true hok rfl

/-- A document with two dashboards, one of them with a widget as wide as can be. -/
def pairText : String := "queries:
  total: {title: Total, nrql: SELECT 1, visualization: list}
dashboards:
  first:
    title: First
    widgets:
    - {query: total, row: 1, column: 1, width: 4294967295, height: 1}
  second: {title: Second}
"

/-- The dashboards of the document. -/
def pairDashboards : DashboardTable :=
  ⟨[("first", ⟨"first", "First", [⟨"Total", "SELECT 1", .list, ⟨1, 1, 4294967295, 1⟩, none⟩]⟩),
    ("second", ⟨"second", "Second", []⟩)], by decide⟩

/-- A file that holds the document. -/
def pairFiles : Files := fun _ => .ok pairText

/-- A client of the account with the greatest number. -/
def pairClient : Api.Client := ⟨"secret", 18446744073709551615, Api.defaultBaseUrl⟩

/-- Answers that let the first dashboard be created and break off then. -/
def pairReplies : List Api.Reply :=
  [.response ⟨200, "\x7b\"dashboards\": []\x7d"⟩, .response ⟨201, ""⟩, .failure "gone"]

/-- What is submitted for the document before the answers break off is the first element of what is
printed. -/
theorem commands_agree_pair :
    ∃ items : List Json,
      (∀ pretty, Json.ofText (render pairFiles "pair.yml" 18446744073709551615 pretty).printed =
        .ok (.array items)) ∧
      Api.bodies ((build pairFiles "pair.yml" pairClient).run .prepared pairReplies).sent =
        (items.take 1).map some := by
  have hentries : (Compiled.load pairFiles "pair.yml").result.toOption.map
      (·.dashboards.entries) = some pairDashboards.entries := by decide +kernel
  obtain ⟨compiled, hload, hdashboards⟩ := exists_ok_of_toOption_map hentries
  obtain ⟨-, -, -, haccept⟩ := commands_agree pairFiles "pair.yml" pairClient (by decide)
  obtain ⟨items, hitems⟩ := haccept (lintSays_ok_iff.2 ⟨compiled, hload⟩)
  have hlength : (Api.bodies
      ((build pairFiles "pair.yml" pairClient).run .prepared pairReplies).sent).length = 1 := by
    rw [build_of_ok hload, Table.ext hdashboards]
    decide +kernel
  refine ⟨items, hitems.printed, ?_⟩
  rw [List.map_take, ← hlength]
  exact List.prefix_iff_eq_take.1 (hitems.bodies_isPrefix _ _ _)

end Dashboards.CommandLine
