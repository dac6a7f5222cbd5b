import Dashboards.Proofs.Api.Conversation
import Dashboards.Proofs.Config.Numbers
import Dashboards.Proofs.Json.RoundTrip

/-!
# Payloads

A payload whose numbers fit is a plain JSON value, so it is read from its text
(`Dashboard.isPlain_payload`). The payloads that a run submits are those of the dashboards of its
table, in order, as far as it gets (`Client.bodies_run`). A run that fails does so with an answer to
one of its requests or by a fault of the interface (`Client.error_run`), never over a payload.
-/

namespace Dashboards

/-! ## Plain payloads -/

section
open Json (IsPlain)

/-- A number of 32 bits has 64. -/
theorem lt_uint64Size {n : Nat} (h : n < UInt32.size) : n < UInt64.size :=
  Nat.lt_trans h (by decide)

/-- A place and a size that fit are plain. -/
theorem Layout.isPlain_payload {layout : Layout} (h : layout.Fits) (levels : Nat) :
    IsPlain (levels + 1) layout.payload := by
  refine .object (by simp) ?_
  simp only [List.forall_mem_cons]
  exact ⟨.nat (lt_uint64Size h.column), .nat (lt_uint64Size h.height), .nat (lt_uint64Size h.row),
    .nat (lt_uint64Size h.width), List.forall_mem_nil _⟩

/-- A text that may be missing is plain. -/
theorem Json.isPlain_optionalString (text : Option String) (levels : Nat) :
    IsPlain levels (.optionalString text) := by
  cases text with
  | none => exact .null
  | some text => exact .string

/-- A widget of an account is plain if its place and its size fit. -/
theorem Widget.isPlain_payload {account : Nat} (haccount : account < UInt64.size) {widget : Widget}
    (h : widget.layout.Fits) : IsPlain 3 (widget.payload account) := by
  have hdata : IsPlain 1 (.object [("nrql", .string widget.query)]) :=
    .object (by simp) (List.forall_mem_singleton.2 .string)
  have hpresentation : IsPlain 2 (.object [("notes", .optionalString widget.notes),
      ("title", .string widget.title)]) := by
    refine .object (by simp) ?_
    simp only [List.forall_mem_cons]
    exact ⟨Json.isPlain_optionalString _ _, .string, List.forall_mem_nil _⟩
  refine .object (by simp) ?_
  simp only [List.forall_mem_cons]
  exact ⟨.nat haccount, .array (List.forall_mem_singleton.2 hdata), Layout.isPlain_payload h 1,
    hpresentation, .string, List.forall_mem_nil _⟩

/-- A dashboard of an account is plain if the places and the sizes of its widgets fit. -/
theorem Dashboard.isPlain_payload {account : Nat} (haccount : account < UInt64.size)
    {dashboard : Dashboard} (h : ∀ widget ∈ dashboard.widgets, widget.layout.Fits) :
    IsPlain 6 (dashboard.payload account) := by
  have hwidgets : IsPlain 4 (.array (dashboard.widgets.map (Widget.payload account))) := by
    refine .array fun item hitem => ?_
    obtain ⟨widget, hwidget, rfl⟩ := List.mem_map.1 hitem
    exact Widget.isPlain_payload haccount (h widget hwidget)
  have hmetadata : IsPlain 4 (.object [("version", .nat 1)]) :=
    .object (by simp) (List.forall_mem_singleton.2 (.nat (by decide)))
  refine .object (by simp) (List.forall_mem_singleton.2 (.object (by simp) ?_))
  simp only [List.forall_mem_cons]
  exact ⟨.string, .object (by simp) (List.forall_mem_nil _), .string, hmetadata, .string, .string,
    hwidgets, List.forall_mem_nil _⟩

end

namespace Api

variable {client : Client} {dashboard : Dashboard} {handling : Handling}

/-! ## What is submitted -/

/-- The bodies of the requests that change something, in order. -/
def bodies (requests : List Request) : List (Option Json) :=
  (requests.filter fun request => request.method ≠ .get).map Request.body

/-- Bodies of requests in a row are the bodies of the first ones and of the others. -/
theorem bodies_append (requests others : List Request) :
    bodies (requests ++ others) = bodies requests ++ bodies others := by
  rw [bodies, List.filter_append, List.map_append]
  rfl

/-- A submission has the payload of the dashboard as its body. -/
theorem Handling.Obeys.body_eq (h : handling.Obeys client dashboard) {exchange : Exchange}
    (hsubmission : handling.submission = some exchange) :
    exchange.request.method ≠ .get ∧
      exchange.request.body = some (dashboard.payload client.account) := by
  obtain ⟨outcome, hcall⟩ := h.exists_callsFor hsubmission
  cases outcome with
  | created =>
    obtain ⟨answer, hcreated⟩ := h.creates_iff.2 hcall
    cases hsubmission.symm.trans hcreated
    exact ⟨nofun, rfl⟩
  | updated id =>
    obtain ⟨answer, hreplaced⟩ := (h.replaces_iff id).2 hcall
    cases hsubmission.symm.trans hreplaced
    exact ⟨nofun, rfl⟩

/-- While a dashboard is handled its payload is submitted, if anything is. -/
theorem Handling.Obeys.bodies_eq (h : handling.Obeys client dashboard) :
    bodies (handling.exchanges.map Exchange.request) =
      handling.submission.toList.map fun _ => some (dashboard.payload client.account) := by
  have hlookup : handling.lookup.request.method = .get := by rw [h.lookup_eq]; rfl
  cases hsubmission : handling.submission with
  | none => simp [Handling.exchanges, hsubmission, bodies, hlookup]
  | some exchange =>
    obtain ⟨hmethod, hbody⟩ := h.body_eq hsubmission
    simp [Handling.exchanges, hsubmission, bodies, hlookup, hmethod, hbody]

/-- The payloads that are submitted in a conversation are those of its dashboards in order, as far
as it gets. -/
theorem Conversation.bodies_isPrefix {dashboards : List Dashboard} {handlings : List Handling}
    {reported : Option (List Sync)} (h : Conversation client dashboards handlings reported) :
    bodies ((handlings.flatMap Handling.exchanges).map Exchange.request) <+:
        dashboards.map (fun dashboard => some (dashboard.payload client.account)) ∧
      (reported.isSome →
        bodies ((handlings.flatMap Handling.exchanges).map Exchange.request) =
          dashboards.map fun dashboard => some (dashboard.payload client.account)) := by
  induction h with
  | done => exact ⟨List.prefix_refl _, fun _ => rfl⟩
  | @stopped dashboard rest handling hobeys _ =>
    -- Its payload may have been submitted or not.
    refine ⟨?_, nofun⟩
    rw [List.flatMap_singleton, hobeys.bodies_eq, List.map_cons]
    cases handling.submission with
    | none => exact List.nil_prefix
    | some exchange => exact List.prefix_append [_] _
  | @accepted dashboard rest handling handlings reported outcome hobeys haccepted _ _ ih =>
    obtain ⟨exchange, hsubmission, -⟩ := haccepted
    rw [List.flatMap_cons, List.map_append, bodies_append, hobeys.bodies_eq, hsubmission]
    refine ⟨List.cons_prefix_cons.2 ⟨rfl, ih.1⟩, fun hreported => ?_⟩
    rw [Option.isSome_map] at hreported
    rw [ih.2 hreported]
    rfl

/-- The payloads that a run submits are those of the dashboards in order, as far as it gets, and all
of them if it succeeds. -/
theorem Client.bodies_run {σ : Type} (client : Client) (dashboards : DashboardTable)
    (transport : Transport σ) (state : σ) :
    let run := (client.reconcileAll dashboards).run transport state
    bodies run.sent <+:
        dashboards.records.map (fun dashboard => some (dashboard.payload client.account)) ∧
      (run.result.isOk → bodies run.sent =
        dashboards.records.map fun dashboard => some (dashboard.payload client.account)) := by
  intro run
  obtain ⟨handlings, hexchanges, hconversation⟩ :=
    trace_reconcileAll (Dialogue.trace_run transport (client.reconcileAll dashboards) state)
  have hsent : run.sent = (handlings.flatMap Handling.exchanges).map Exchange.request := by
    rw [← hexchanges, Transport.map_request_exchanges]
  rw [hsent]
  refine ⟨hconversation.bodies_isPrefix.1, fun hok => hconversation.bodies_isPrefix.2 ?_⟩
  change run.result.toOption.isSome
  cases hresult : run.result with
  | ok syncs => rfl
  | error error =>
    rw [hresult] at hok
    cases hok

/-! ## How a run fails -/

/-- A fault of the interface, or of what it answers. -/
def IsApiFault (error : Error) : Prop :=
  ∃ fault, error = .api fault

namespace Client

/-- What a response to a lookup says is wrong only by a fault of the interface. -/
theorem isApiFault_of_readLookup {title : String} {response : Response} {error : Error}
    (h : readLookup title response = .error error) : IsApiFault error := by
  rw [readLookup] at h
  split at h
  · cases h
    exact ⟨_, rfl⟩
  · split at h
    · cases h
      exact ⟨_, rfl⟩
    · rw [exactMatch] at h
      split at h
      · cases h
      · cases h
      · cases h
        exact ⟨_, rfl⟩

/-- A lookup fails of its own only by a fault of the interface. -/
theorem raises_find (client : Client) (title : String) : (client.find title).Raises IsApiFault := by
  refine Dialogue.Raises.bind (fun _ => trivial) fun response => Dialogue.Raises.bind ?_ fun _ => ?_
  · cases hread : readLookup title response with
    | ok found => trivial
    | error error => exact isApiFault_of_readLookup hread
  · trivial

/-- A submission fails of its own only by a fault of the interface. -/
theorem raises_submit (client : Client) (submission : Submission) (dashboard : Dashboard) :
    (client.submit submission dashboard).Raises IsApiFault := by
  refine Dialogue.Raises.bind (fun _ => trivial) fun response => ?_
  split
  · trivial
  · exact ⟨_, rfl⟩

/-- A dashboard that is reconciled fails of its own only by a fault of the interface. -/
theorem raises_reconcile (client : Client) (dashboard : Dashboard) :
    (client.reconcile dashboard).Raises IsApiFault := by
  refine (client.raises_find dashboard.title).bind fun found => ?_
  cases found with
  | none => exact (client.raises_submit .create dashboard).bind fun _ => trivial
  | some id => exact (client.raises_submit (.update id) dashboard).bind fun _ => trivial

/-- Dashboards that are reconciled fail of their own only by a fault of the interface. -/
theorem raises_reconcileFrom (client : Client) (total position : Nat)
    (dashboards : List Dashboard) :
    (client.reconcileFrom total position dashboards).Raises IsApiFault := by
  induction dashboards generalizing position with
  | nil => trivial
  | cons dashboard rest ih =>
    exact (client.raises_reconcile dashboard).bind fun _ =>
      (ih (position + 1)).bind fun _ => trivial

/-- A run that fails does so with an answer to one of its requests or by a fault of the
interface. -/
theorem error_run {σ : Type} {dashboards : DashboardTable} {transport : Transport σ} {state : σ}
    {error : Error}
    (h : ((client.reconcileAll dashboards).run transport state).result = .error error) :
    (∃ exchange ∈ transport.exchanges
        ((client.reconcileAll dashboards).run transport state).sent state,
      exchange.answer = .error error) ∨ IsApiFault error := by
  have htrace := Dialogue.trace_run transport (client.reconcileAll dashboards) state
  rw [h] at htrace
  exact htrace.error_cases ((client.raises_reconcileFrom _ _ _).bind fun _ => trivial)

end Client

end Api

end Dashboards
