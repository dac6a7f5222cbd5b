import Dashboards.Api.Reconcile
import Dashboards.Proofs.Api.Exchange
import Dashboards.Proofs.Api.Listing
import Mathlib.Data.List.Basic

/-!
# Conversations

While dashboards are reconciled, each is handled by a lookup of its title and by at most one
submission (`Handling`). What the lookup is answered decides which submission follows, if any
(`CallsFor`, `Handling.Obeys`), and the next dashboard has its turn only after an answer that
accepts the submission (`Conversation`). An answer lists what is written in its body (`Lists`), by
the grammar of listings.

`reconcileAll_protocol` says that every run is such a conversation, whatever answers the requests.
-/

namespace Dashboards.Api

/-! ## Requests and answers -/

namespace Request

variable (baseUrl key : String)

/-- The lookup of a title. -/
def lookup (title : String) : Request where
  method := .get
  url := baseUrl ++ "dashboards.json"
  parameters := [("filter[title]", title)]
  headers := [("X-Api-Key", key)]
  body := none

/-- The creation of a dashboard. -/
def creation (body : Json) : Request where
  method := .post
  url := baseUrl ++ "dashboards.json"
  parameters := []
  headers := [("X-Api-Key", key)]
  body := some body

/-- The replacement of the dashboard of a number. -/
def replacement (id : Nat) (body : Json) : Request where
  method := .put
  url := baseUrl ++ "dashboards/" ++ toString id ++ ".json"
  parameters := []
  headers := [("X-Api-Key", key)]
  body := some body

/-- Different dashboards are replaced at different addresses. -/
theorem id_eq_of_url_eq {baseUrl : String} {id id' : Nat}
    (h : baseUrl ++ "dashboards/" ++ toString id ++ ".json" =
      baseUrl ++ "dashboards/" ++ toString id' ++ ".json") : id = id' := by
  rw [String.append_left_inj, String.append_right_inj] at h
  have hdigits := congrArg (fun text : String => Nat.ofDigitChars 10 text.toList 0) h
  simpa [Nat.toString_eq_ofList_toDigits] using hdigits

end Request

/-- An answer that accepts a submission is a response with status 200 or 201. -/
def Accepts (answer : Except Error Response) : Prop :=
  ∃ response, answer = .ok response ∧ (response.status = 200 ∨ response.status = 201)

/-- An answer that lists dashboards is a response with status 200 whose body is a listing of
them. -/
def Lists (answer : Except Error Response) (summaries : List Summary) : Prop :=
  ∃ body, answer = .ok ⟨200, body⟩ ∧ Listing.Written body summaries

/-- What the answer to the lookup of a title calls for. -/
inductive CallsFor (title : String) (answer : Except Error Response) : Outcome → Prop
  /-- A listing without the title calls for a new dashboard. -/
  | created {summaries : List Summary} : Lists answer summaries →
      (∀ summary ∈ summaries, summary.title ≠ title) → CallsFor title answer .created
  /-- A listing with a single entry of the title calls for replacing that one. -/
  | updated {before after : List Summary} {id : Nat} :
      Lists answer (before ++ ⟨id, title⟩ :: after) →
      (∀ summary ∈ before ++ after, summary.title ≠ title) → CallsFor title answer (.updated id)

/-- What happens to a dashboard, by the number under which its title was found. -/
def Outcome.ofFound : Option Nat → Outcome
  | none => created
  | some id => updated id

/-- What happens to a dashboard depends on what was found of it. -/
theorem Outcome.exists_ofFound : ∀ outcome : Outcome, ∃ found, outcome = .ofFound found
  | created => ⟨none, rfl⟩
  | updated id => ⟨some id, rfl⟩

/-- The submission that makes something happen to a dashboard. -/
def Outcome.submission : Outcome → Client.Submission
  | created => .create
  | updated id => .update id

namespace Client

/-- A match is missing or found exactly if no entry or one entry of the listing has the title. -/
theorem exactMatch_eq_ok_iff {title : String} {answer : Except Error Response}
    {summaries : List Summary} (h : Lists answer summaries) {found : Option Nat} :
    exactMatch title summaries = .ok found ↔ CallsFor title answer (.ofFound found) := by
  obtain ⟨body, rfl, hbody⟩ := h
  have decoded : ∀ {others}, Lists (.ok ⟨200, body⟩) others → others = summaries := by
    rintro others ⟨body', heq, hothers⟩
    cases heq
    exact hothers.unique hbody
  rw [exactMatch]
  constructor
  · intro hmatch
    split at hmatch
    · next hnone =>
      cases hmatch
      refine .created ⟨body, rfl, hbody⟩ fun summary hsummary => ?_
      simpa using List.filter_eq_nil_iff.1 hnone summary hsummary
    · next summary hone =>
      cases hmatch
      obtain ⟨before, after, rfl, hbefore, htitle, hafter⟩ := List.filter_eq_cons_iff.1 hone
      have htitle : summary.title = title := by simpa using htitle
      subst htitle
      refine .updated ⟨body, rfl, hbody⟩ fun other hother => ?_
      rcases List.mem_append.1 hother with hother | hother
      · simpa using hbefore other hother
      · simpa using List.filter_eq_nil_iff.1 hafter other hother
    · cases hmatch
  · intro hcalls
    cases found with
    | none =>
      cases hcalls with
      | created hlists hnone =>
      cases decoded hlists
      have hfilter : (summaries.filter fun summary => summary.title = title) = [] :=
        List.filter_eq_nil_iff.2 fun summary hsummary => by simpa using hnone summary hsummary
      rw [hfilter]
    | some id =>
      cases hcalls with
      | @updated before after _ hlists hnone =>
      cases decoded hlists
      have hfilter : ((before ++ ⟨id, title⟩ :: after).filter fun summary =>
          summary.title = title) = [⟨id, title⟩] := by
        refine List.filter_eq_cons_iff.2 ⟨before, after, rfl, ?_, by simp, ?_⟩
        · exact fun summary hsummary => by simpa using hnone summary (by simp [hsummary])
        · exact List.filter_eq_nil_iff.2 fun summary hsummary => by
            simpa using hnone summary (by simp [hsummary])
      rw [hfilter]

/-- A response to a lookup is read as what it calls for. -/
theorem readLookup_eq_ok_iff {title : String} {response : Response} {found : Option Nat} :
    readLookup title response = .ok found ↔ CallsFor title (.ok response) (.ofFound found) := by
  obtain ⟨status, body⟩ := response
  have listed : ∀ {outcome}, CallsFor title (.ok ⟨status, body⟩) outcome →
      status = 200 ∧ ∃ summaries, Listing.ofText body = .ok summaries := by
    rintro outcome (⟨⟨_, heq, hbody⟩, -⟩ | ⟨⟨_, heq, hbody⟩, -⟩)
    all_goals
      cases heq
      exact ⟨rfl, _, Listing.ofText_eq_ok_iff.2 hbody⟩
  rw [readLookup]
  by_cases hstatus : status = 200
  · subst hstatus
    rw [if_neg (by simp)]
    cases hbody : Listing.ofText body with
    | error fault =>
      refine ⟨nofun, fun hcalls => ?_⟩
      obtain ⟨-, summaries, hlisted⟩ := listed hcalls
      cases hbody.symm.trans hlisted
    | ok summaries => exact exactMatch_eq_ok_iff ⟨body, rfl, Listing.ofText_eq_ok_iff.1 hbody⟩
  · rw [if_pos hstatus]
    exact ⟨nofun, fun hcalls => absurd (listed hcalls).1 hstatus⟩

end Client

/-- A failure to get a response calls for nothing. -/
theorem not_callsFor_error {title : String} {error : Error} {outcome : Outcome} :
    ¬ CallsFor title (.error error) outcome := by
  rintro (⟨⟨_, heq, -⟩, -⟩ | ⟨⟨_, heq, -⟩, -⟩) <;> cases heq

/-- What an answer calls for is one thing. -/
theorem CallsFor.unique {title : String} {answer : Except Error Response} {outcome other : Outcome}
    (h : CallsFor title answer outcome) (hother : CallsFor title answer other) :
    outcome = other := by
  obtain ⟨found, rfl⟩ := outcome.exists_ofFound
  obtain ⟨found', rfl⟩ := other.exists_ofFound
  cases answer with
  | error error => exact absurd h not_callsFor_error
  | ok response =>
    have := (Client.readLookup_eq_ok_iff.2 h).symm.trans (Client.readLookup_eq_ok_iff.2 hother)
    rw [Except.ok.inj this]

/-! ## One dashboard -/

/-- What is exchanged about a dashboard: a lookup, and perhaps a submission. -/
structure Handling where
  lookup : Exchange
  submission : Option Exchange

namespace Handling

variable (client : Client) (dashboard : Dashboard) (handling : Handling)

/-- The exchanges in their order. -/
def exchanges : List Exchange :=
  handling.lookup :: handling.submission.toList

/-- The dashboard was submitted, and the answer accepts it. -/
def Accepted : Prop :=
  ∃ exchange, handling.submission = some exchange ∧ Accepts exchange.answer

/-- A dashboard is handled as the protocol asks for. -/
structure Obeys : Prop where
  /-- The title is looked up. -/
  lookup_eq : handling.lookup.request = .lookup client.baseUrl client.apiKey dashboard.title
  /-- A dashboard is replaced exactly if the listing has a single entry of the title. -/
  replaces_iff : ∀ id, (∃ answer, handling.submission = some
      ⟨.replacement client.baseUrl client.apiKey id (dashboard.payload client.account), answer⟩) ↔
    CallsFor dashboard.title handling.lookup.answer (.updated id)
  /-- A dashboard is created exactly if the listing has no entry of the title. -/
  creates_iff : (∃ answer, handling.submission = some
      ⟨.creation client.baseUrl client.apiKey (dashboard.payload client.account), answer⟩) ↔
    CallsFor dashboard.title handling.lookup.answer .created
  /-- Nothing is submitted exactly if the answer calls for neither. -/
  silent_iff : handling.submission = none ↔
    ∀ outcome, ¬ CallsFor dashboard.title handling.lookup.answer outcome

end Handling

section
variable {client : Client} {dashboard : Dashboard} {answer : Except Error Response}

/-- What is submitted is called for. -/
theorem Handling.Obeys.exists_callsFor {handling : Handling} (h : handling.Obeys client dashboard)
    {exchange : Exchange} (hsubmission : handling.submission = some exchange) :
    ∃ outcome, CallsFor dashboard.title handling.lookup.answer outcome := by
  refine Classical.by_contradiction fun hnone => ?_
  rw [h.silent_iff.2 fun outcome hcall => hnone ⟨outcome, hcall⟩] at hsubmission
  cases hsubmission

/-- A lookup whose answer calls for nothing is all that is exchanged. -/
theorem Handling.obeys_of_silent
    (h : ∀ outcome, ¬ CallsFor dashboard.title answer outcome) :
    Handling.Obeys client dashboard ⟨⟨client.lookupRequest dashboard.title, answer⟩, none⟩ where
  lookup_eq := rfl
  replaces_iff _ := by simp [h]
  creates_iff := by simp [h]
  silent_iff := by simp [h]

/-- A lookup whose answer calls for something is followed by its submission. -/
theorem Handling.obeys_of_callsFor {outcome : Outcome} {reply : Except Error Response}
    (h : CallsFor dashboard.title answer outcome) :
    Handling.Obeys client dashboard ⟨⟨client.lookupRequest dashboard.title, answer⟩,
      some ⟨client.submitRequest outcome.submission dashboard, reply⟩⟩ where
  lookup_eq := rfl
  replaces_iff id := by
    constructor
    · rintro ⟨reply', hrequest⟩
      have hrequest := congrArg Exchange.request (Option.some.inj hrequest)
      cases outcome with
      | created => cases congrArg Request.method hrequest
      | updated id' =>
        cases Request.id_eq_of_url_eq (congrArg Request.url hrequest)
        exact h
    · intro hcalls
      cases h.unique hcalls
      exact ⟨reply, rfl⟩
  creates_iff := by
    constructor
    · rintro ⟨reply', hrequest⟩
      have hrequest := congrArg Exchange.request (Option.some.inj hrequest)
      cases outcome with
      | created => exact h
      | updated id' => cases congrArg Request.method hrequest
    · intro hcalls
      cases h.unique hcalls
      exact ⟨reply, rfl⟩
  silent_iff := by simpa using ⟨outcome, h⟩

end

/-! ## All dashboards -/

/-- What is exchanged about dashboards, one after the other, and what is reported if all of them are
submitted. -/
inductive Conversation (client : Client) :
    List Dashboard → List Handling → Option (List Sync) → Prop
  | done : Conversation client [] [] (some [])
  /-- A dashboard that is not accepted is the last one. -/
  | stopped {dashboard : Dashboard} {rest : List Dashboard} {handling : Handling} :
      handling.Obeys client dashboard → ¬ handling.Accepted →
      Conversation client (dashboard :: rest) [handling] none
  /-- After a dashboard that is accepted it is the turn of the next one. -/
  | accepted {dashboard : Dashboard} {rest : List Dashboard} {handling : Handling}
      {handlings : List Handling} {syncs : Option (List Sync)} {outcome : Outcome} :
      handling.Obeys client dashboard → handling.Accepted →
      CallsFor dashboard.title handling.lookup.answer outcome →
      Conversation client rest handlings syncs →
      Conversation client (dashboard :: rest) (handling :: handlings)
        (syncs.map (⟨dashboard.name, dashboard.title, outcome⟩ :: ·))

namespace Client

open Dialogue

variable {client : Client} {dashboard : Dashboard} {exchanged : List Exchange}

/-- A response is accepted exactly if it accepts the submission. -/
theorem accepts_iff {response : Response} : accepts response = true ↔ Accepts (.ok response) := by
  simp [accepts, Accepts]

/-- A lookup is one request, and finds what the answer calls for. -/
theorem trace_find {title : String} {result : Except Error (Option Nat)}
    (h : Trace (client.find title) exchanged result) :
    ∃ answer, exchanged = [⟨client.lookupRequest title, answer⟩] ∧
      ∀ found, result = .ok found ↔ CallsFor title answer (.ofFound found) := by
  rcases h.bind_cases with ⟨error, hask, rfl⟩ | ⟨response, asked, noted, rfl, hask, hread⟩
  · exact ⟨_, hask.ask_cases, fun _ => ⟨nofun, fun h => absurd h not_callsFor_error⟩⟩
  have hresult : noted = [] ∧ result = readLookup title response := by
    rcases hread.bind_cases with ⟨error, hdone, rfl⟩ | ⟨id, before, rest, rfl, hdone, hnote⟩
    · exact hdone.done_eq
    · obtain ⟨rfl, hfound⟩ := hdone.done_eq
      obtain ⟨rfl, rfl⟩ := hnote.of_inform.done_eq
      exact ⟨rfl, hfound⟩
  obtain ⟨rfl, rfl⟩ := hresult
  exact ⟨.ok response, by rw [hask.ask_cases]; rfl, fun _ => readLookup_eq_ok_iff⟩

/-- A submission is one request, and succeeds if the answer accepts it. -/
theorem trace_submit {submission : Submission} {result : Except Error Unit}
    (h : Trace (client.submit submission dashboard) exchanged result) :
    ∃ answer, exchanged = [⟨client.submitRequest submission dashboard, answer⟩] ∧
      (result = .ok () ↔ Accepts answer) := by
  rcases h.bind_cases with ⟨error, hask, rfl⟩ | ⟨response, asked, rest, rfl, hask, hend⟩
  · exact ⟨_, hask.ask_cases, nofun, nofun⟩
  rw [hask.ask_cases]
  refine ⟨.ok response, ?_⟩
  rw [← accepts_iff]
  split at hend
  all_goals
    next haccepts =>
    obtain ⟨rfl, rfl⟩ := hend.done_eq
    simp [haccepts]

/-- A dashboard is handled as the protocol asks for, and its outcome is what the lookup called for,
unless it is not accepted. -/
theorem trace_reconcile {result : Except Error Outcome}
    (h : Trace (client.reconcile dashboard) exchanged result) :
    ∃ handling : Handling, exchanged = handling.exchanges ∧ handling.Obeys client dashboard ∧
      ((∃ outcome, result = .ok outcome ∧ handling.Accepted ∧
          CallsFor dashboard.title handling.lookup.answer outcome) ∨
        (∃ error, result = .error error) ∧ ¬ handling.Accepted) := by
  rcases h.bind_cases with ⟨error, hfind, rfl⟩ | ⟨found, looked, submitted, rfl, hfind, hrest⟩
  · obtain ⟨answer, rfl, hcalls⟩ := trace_find hfind
    refine ⟨⟨_, none⟩, rfl, Handling.obeys_of_silent fun outcome hcall => ?_,
      .inr ⟨⟨error, rfl⟩, ?_⟩⟩
    · obtain ⟨found, rfl⟩ := outcome.exists_ofFound
      cases (hcalls found).2 hcall
    · rintro ⟨_, hnone, -⟩
      cases hnone
  obtain ⟨answer, rfl, hcalls⟩ := trace_find hfind
  have hcall := (hcalls found).1 rfl
  -- Whatever was found, its submission follows.
  have hsubmit : Trace (do
      client.submit (Outcome.ofFound found).submission dashboard
      return Outcome.ofFound found) submitted result := by
    cases found with
    | none => exact hrest.of_inform
    | some id => exact hrest.of_inform
  rcases hsubmit.bind_cases with ⟨error, hsent, rfl⟩ | ⟨⟨⟩, sent, rest, rfl, hsent, hend⟩
  · obtain ⟨reply, rfl, haccepts⟩ := trace_submit hsent
    refine ⟨⟨_, some ⟨_, reply⟩⟩, rfl, Handling.obeys_of_callsFor hcall, .inr ⟨⟨error, rfl⟩, ?_⟩⟩
    rintro ⟨_, ⟨⟩, haccepted⟩
    cases haccepts.2 haccepted
  · obtain ⟨reply, rfl, haccepts⟩ := trace_submit hsent
    obtain ⟨rfl, rfl⟩ := hend.done_eq
    exact ⟨⟨_, some ⟨_, reply⟩⟩, rfl, Handling.obeys_of_callsFor hcall,
      .inl ⟨_, rfl, ⟨_, rfl, haccepts.1 rfl⟩, hcall⟩⟩

/-- Dashboards that are reconciled one after the other are a conversation about them. -/
theorem trace_reconcileFrom {total position : Nat} {dashboards : List Dashboard}
    {result : Except Error (List Sync)}
    (h : Trace (client.reconcileFrom total position dashboards) exchanged result) :
    ∃ handlings, exchanged = handlings.flatMap Handling.exchanges ∧
      Conversation client dashboards handlings result.toOption := by
  induction dashboards generalizing position exchanged result with
  | nil =>
    obtain ⟨rfl, rfl⟩ := h.done_eq
    exact ⟨[], rfl, .done⟩
  | cons dashboard rest ih =>
    rcases h.of_inform.of_inform.bind_cases with
      ⟨error, hfirst, rfl⟩ | ⟨outcome, first, others, rfl, hfirst, hrest⟩
    · obtain ⟨handling, rfl, hobeys, ⟨_, ⟨⟩, -⟩ | ⟨-, hrefused⟩⟩ := trace_reconcile hfirst
      exact ⟨[handling], by simp, .stopped hobeys hrefused⟩
    · obtain ⟨handling, rfl, hobeys, ⟨_, ⟨⟩, haccepted, hcall⟩ | ⟨⟨_, ⟨⟩⟩, -⟩⟩ :=
        trace_reconcile hfirst
      rcases hrest.bind_cases with ⟨error, hothers, rfl⟩ | ⟨syncs, others, none, rfl, hothers, hend⟩
      · obtain ⟨handlings, rfl, hconversation⟩ := ih hothers
        exact ⟨handling :: handlings, by simp, .accepted hobeys haccepted hcall hconversation⟩
      · obtain ⟨handlings, rfl, hconversation⟩ := ih hothers
        obtain ⟨rfl, rfl⟩ := hend.done_eq
        exact ⟨handling :: handlings, by simp, .accepted hobeys haccepted hcall hconversation⟩

/-- The dashboards of a table that are reconciled are a conversation about them in their order. -/
theorem trace_reconcileAll {dashboards : DashboardTable} {result : Except Error (List Sync)}
    (h : Trace (client.reconcileAll dashboards) exchanged result) :
    ∃ handlings, exchanged = handlings.flatMap Handling.exchanges ∧
      Conversation client dashboards.records handlings result.toOption := by
  rcases h.of_inform.bind_cases with
    ⟨error, hsyncs, rfl⟩ | ⟨syncs, before, none, rfl, hsyncs, hend⟩
  · exact trace_reconcileFrom hsyncs
  · obtain ⟨rfl, rfl⟩ := hend.of_inform.done_eq
    rw [List.append_nil]
    exact trace_reconcileFrom hsyncs

/-- Whatever answers the requests of a run, they are those of a conversation about the dashboards in
their order, and so are the answers. -/
theorem reconcileAll_protocol {σ : Type} (client : Client) (dashboards : DashboardTable)
    (transport : Transport σ) (state : σ) :
    ∃ handlings,
      transport.exchanges ((client.reconcileAll dashboards).run transport state).sent state =
        handlings.flatMap Handling.exchanges ∧
      Conversation client dashboards.records handlings
        ((client.reconcileAll dashboards).run transport state).result.toOption :=
  trace_reconcileAll (trace_run transport _ state)

/-! ## A conversation in words -/

/-- A client with a key and an account. -/
def secretClient : Client := ⟨"secret", 1234, "https://api.newrelic.com/v2/"⟩

/-- A dashboard without widgets. -/
def secondDashboard : Dashboard := ⟨"main", "Second", []⟩

/-- A table of this dashboard alone. -/
def secondTable : DashboardTable := ⟨[("main", secondDashboard)], by decide⟩

/-- A listing that has the dashboard under number 9, behind one of a longer title. -/
def secondListing : Response where
  status := 200
  body := "\x7b\"dashboards\": [\x7b\"id\": 7, \"title\": \"Second one\"\x7d, " ++
    "\x7b\"id\": 9, \"title\": \"Second\", \"owner\": [null]\x7d]\x7d"

/-- The listing, and an answer that accepts what is submitted. -/
def secondReplies : List Reply := [.response secondListing, .response ⟨200, ""⟩]

/-- The run over the table with these answers. -/
def secondRun : Run (List Reply) (List Sync) :=
  (secretClient.reconcileAll secondTable).run .prepared secondReplies

/-- A dashboard whose title is listed once, under number 9, is looked up and replaced under that
number. -/
theorem reconcileAll_protocol_listed_once :
    (∃ handling : Handling,
      Transport.prepared.exchanges secondRun.sent secondReplies = handling.exchanges ∧
      handling.lookup.answer = .ok secondListing ∧
      handling.Obeys secretClient secondDashboard ∧ handling.Accepted ∧
      CallsFor "Second" (.ok secondListing) (.updated 9)) ∧
    secondRun.sent.map (fun request => (request.method, request.url)) =
      [(.get, "https://api.newrelic.com/v2/dashboards.json"),
        (.put, "https://api.newrelic.com/v2/dashboards/9.json")] ∧
    secondRun.result = .ok [⟨"main", "Second", .updated 9⟩] := by
  have hsyncs : secondRun.result.toOption = some [⟨"main", "Second", .updated 9⟩] := by
    decide +kernel
  have hsent : secondRun.sent.map (fun request => (request.method, request.url)) =
      [(.get, "https://api.newrelic.com/v2/dashboards.json"),
        (.put, "https://api.newrelic.com/v2/dashboards/9.json")] := by
    decide +kernel
  obtain ⟨handlings, hexchanges, hconversation⟩ :=
    reconcileAll_protocol secretClient secondTable .prepared secondReplies
  generalize hreport : ((secretClient.reconcileAll secondTable).run .prepared
    secondReplies).result.toOption = report at hconversation
  replace hreport : report = some [⟨"main", "Second", .updated 9⟩] := hreport.symm.trans hsyncs
  cases hconversation with
  | stopped => cases hreport
  | @accepted _ _ handling _ _ outcome hobeys haccepted hcalls hrest =>
    cases hrest
    cases hreport
    rw [List.flatMap_singleton] at hexchanges
    obtain ⟨_, _, hanswer, -⟩ := Transport.exchanges_eq_cons_iff.1 hexchanges
    rw [← hanswer] at hcalls
    exact ⟨⟨handling, hexchanges, hanswer.symm, hobeys, haccepted, hcalls⟩, hsent,
      toOption_eq_some_iff.1 hsyncs⟩

end Client

end Dashboards.Api
