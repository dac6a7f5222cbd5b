import Dashboards.Api.Client

/-!
# Reconciliation

Dashboards are matched with those of the interface by exact title, one after the other in order. A
title that is not there is created, one that is there is replaced, and the first failure ends the
run.
-/

namespace Dashboards.Api

/-- What happened to a dashboard. -/
inductive Outcome where
  | created
  /-- The dashboard of this number was replaced. -/
  | updated (id : Nat)
deriving DecidableEq, Inhabited

/-- A dashboard that was submitted. -/
structure Sync where
  name : String
  title : String
  outcome : Outcome
deriving DecidableEq, Inhabited

namespace Sync

/-- What happened, in words. -/
def text (sync : Sync) : String :=
  match sync.outcome with
  | .created => s!"created dashboard '{sync.title}'"
  | .updated id => s!"updated dashboard '{sync.title}' ({id})"

/-- What happened, as JSON. -/
def json (sync : Sync) : Json :=
  let outcome := match sync.outcome with
    | .created => [("action", Json.string "created")]
    | .updated id => [("action", Json.string "updated"), ("id", Json.nat id)]
  .object ([("name", .string sync.name), ("title", .string sync.title)] ++ outcome)

end Sync

namespace Client

/-- Creates a dashboard, or updates the one that has its title. -/
def reconcile (client : Client) (dashboard : Dashboard) : Dialogue Outcome := do
  match ← client.find dashboard.title with
  | some id =>
    Dialogue.note .info s!"Updating dashboard '{dashboard.title}' ({id})"
    client.submit (.update id) dashboard
    return .updated id
  | none =>
    Dialogue.note .info s!"Creating dashboard '{dashboard.title}'"
    client.submit .create dashboard
    return .created

/-- Reconciles dashboards one after the other, the first of which is at `position` of `total`. -/
def reconcileFrom (client : Client) (total : Nat) :
    (position : Nat) → List Dashboard → Dialogue (List Sync)
  | _, [] => return []
  | position, dashboard :: rest => do
    Dialogue.inform <| .progress
      s!"Submitting dashboard {position + 1} of {total}: {dashboard.title}..."
    Dialogue.note .debug
      s!"Submitting dashboard {dashboard.name} with {dashboard.widgets.length} widgets"
    let outcome ← client.reconcile dashboard
    let syncs ← client.reconcileFrom total (position + 1) rest
    return ⟨dashboard.name, dashboard.title, outcome⟩ :: syncs

/-- Reconciles all dashboards of a table, in order. -/
def reconcileAll (client : Client) (dashboards : DashboardTable) : Dialogue (List Sync) := do
  Dialogue.note .info s!"Reconciling {dashboards.size} dashboards"
  let syncs ← client.reconcileFrom dashboards.size 0 dashboards.records
  Dialogue.inform <| .finished s!"Sync complete: {syncs.length} dashboards submitted"
  return syncs

end Client

end Dashboards.Api
