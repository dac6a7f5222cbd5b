import Dashboards.Proofs.Api.Store

/-!
# Runs that go well

A run that succeeds has written its dashboards one after the other, each in its place
(`Serves.writes_of_run`). Which dashboards are written under one number is then a matter of their
titles alone (`Writes.pairwise`), and a dashboard stays as it was written until another one of its
title comes (`Writes.last_of_append`).
-/

namespace Dashboards.Api

/-- Dashboards of an account that are written one after the other, each in its place under a
number. -/
inductive Writes (account : Nat) : Store → List (Nat × Dashboard) → Store → Prop
  | done {store : Store} : Writes account store [] store
  | write {store last : Store} {id : Nat} {dashboard : Dashboard}
      {rest : List (Nat × Dashboard)} : store.Place dashboard.title id →
      Writes account (store.write id dashboard.title (dashboard.payload account)) rest last →
      Writes account store ((id, dashboard) :: rest) last

namespace Writes

variable {account : Nat} {store last : Store} {written : List (Nat × Dashboard)}

/-- What every write of a dashboard in its place preserves holds behind all of them. -/
theorem invariant {P : Store → Prop} (h : Writes account store written last)
    (hwrite : ∀ now, ∀ entry ∈ written, P now → now.Place entry.2.title entry.1 →
      P (now.write entry.1 entry.2.title (entry.2.payload account)))
    (hstore : P store) : P last := by
  induction h with
  | done => exact hstore
  | @write _ _ id dashboard _ hplace _ ih =>
    exact ih (fun now entry hentry => hwrite now entry (List.mem_cons_of_mem _ hentry))
      (hwrite _ (id, dashboard) (by simp) hstore hplace)

/-- Writes one after the other are some of them and then the others. -/
theorem of_append {before after : List (Nat × Dashboard)}
    (h : Writes account store (before ++ after) last) :
    ∃ middle, Writes account store before middle ∧ Writes account middle after last := by
  induction before generalizing store with
  | nil => exact ⟨store, .done, h⟩
  | cons entry before ih =>
    cases h with
    | write hplace hrest =>
      obtain ⟨middle, hbefore, hafter⟩ := ih hrest
      exact ⟨middle, .write hplace hbefore, hafter⟩

/-- Behind the only dashboard of a title, exactly the dashboards of that title are written under its
number. -/
theorem eq_iff_of_only {id : Nat} {title : String} (h : Writes account store written last)
    (honly : store.Only id title) :
    ∀ entry ∈ written, id = entry.1 ↔ title = entry.2.title := by
  induction h with
  | done => nofun
  | write hplace _ ih =>
    intro entry hentry
    rcases List.mem_cons.1 hentry with rfl | hentry
    · exact hplace.eq_iff_of_only honly
    · exact ih (hplace.only_write_of_only honly) entry hentry

/-- Two dashboards are written under one number exactly if they have the same title. -/
theorem pairwise (h : Writes account store written last) :
    written.Pairwise fun entry other => entry.1 = other.1 ↔ entry.2.title = other.2.title := by
  induction h with
  | done => exact .nil
  | write hplace hrest ih => exact .cons (hrest.eq_iff_of_only hplace.only_write) ih

/-- A dashboard whose title is not written again is what its number has in the end, and the only one
of its title. -/
theorem last_of_append {before after : List (Nat × Dashboard)} {id : Nat} {dashboard : Dashboard}
    (h : Writes account store (before ++ (id, dashboard) :: after) last)
    (hafter : ∀ entry ∈ after, entry.2.title ≠ dashboard.title) :
    last id = some ⟨dashboard.title, dashboard.payload account⟩ ∧
      last.Only id dashboard.title := by
  obtain ⟨middle, -, hrest⟩ := h.of_append
  cases hrest with
  | write hplace hrest =>
    refine hrest.invariant (P := fun now =>
      now id = some ⟨dashboard.title, dashboard.payload account⟩ ∧ now.Only id dashboard.title)
      ?_ ⟨Store.write_self, hplace.only_write⟩
    rintro now entry hentry ⟨hstored, honly⟩ hnext
    exact ⟨(hnext.write_iff (hafter entry hentry).symm).2 hstored,
      hnext.only_write_of_only honly⟩

end Writes

namespace Serves

variable {σ : Type} {client : Client} {transport : Transport σ} {store : σ → Store} {state : σ}
  {dashboard : Dashboard} {handling : Handling} {sent : List Request}

/-- A dashboard that is accepted was written in its place. -/
theorem written_of_handling (hserves : Serves client.baseUrl transport store)
    (hobeys : handling.Obeys client dashboard) (haccepted : handling.Accepted)
    {rest : List Exchange}
    (hsent : transport.exchanges sent state = handling.exchanges ++ rest) :
    ∃ requests others id, sent = requests ++ others ∧
      transport.exchanges others (transport.after requests state) = rest ∧
      (store state).Place dashboard.title id ∧
      (∀ outcome, CallsFor dashboard.title handling.lookup.answer outcome →
        outcome = .created ∨ outcome = .updated id) ∧
      store (transport.after requests state) =
        (store state).write id dashboard.title (dashboard.payload client.account) := by
  obtain ⟨exchange, hsubmission, -⟩ := id haccepted
  obtain ⟨others, rfl, hlookup, hothers⟩ := Transport.exchanges_eq_cons_iff.1 hsent
  rw [hsubmission] at hothers
  obtain ⟨behind, rfl, hanswer, hbehind⟩ := Transport.exchanges_eq_cons_iff.1 hothers
  have hlater : store (transport handling.lookup.request state).2 = store state :=
    hserves.store_of_obeys hobeys
  rcases hserves.submission_cases hobeys hlookup hsubmission hlater hanswer with
    ⟨-, hrefused⟩ | ⟨id, hplace, houtcome, happlied⟩
  · exact absurd haccepted hrefused
  · exact ⟨[handling.lookup.request, exchange.request], behind, id, rfl, hbehind, hplace, houtcome,
      happlied⟩

/-- In a conversation in which all dashboards are accepted they are written one after the other, and
what is reported of a replaced one is its number. -/
theorem writes_of_conversation (hserves : Serves client.baseUrl transport store)
    {dashboards : List Dashboard} {handlings : List Handling} {syncs : List Sync}
    (h : Conversation client dashboards handlings (some syncs))
    (hsent : transport.exchanges sent state = handlings.flatMap Handling.exchanges) :
    ∃ ids, ids.length = dashboards.length ∧
      Writes client.account (store state) (ids.zip dashboards)
        (store (transport.after sent state)) ∧
      List.Forall₂ (fun id sync => sync.outcome = .created ∨ sync.outcome = .updated id)
        ids syncs := by
  generalize hreported : some syncs = reported at h
  induction h generalizing sent state syncs with
  | done =>
    cases hreported
    cases sent with
    | nil => exact ⟨[], rfl, .done, .nil⟩
    | cons => cases hsent
  | stopped => cases hreported
  | @accepted dashboard rest handling handlings reported outcome hobeys haccepted hcall _ ih =>
    obtain ⟨others, rfl, rfl⟩ := Option.map_eq_some_iff.1 hreported.symm
    rw [List.flatMap_cons] at hsent
    obtain ⟨requests, behind, id, rfl, hbehind, hplace, houtcome, happlied⟩ :=
      hserves.written_of_handling hobeys haccepted hsent
    obtain ⟨ids, hlength, hwrites, hids⟩ := ih hbehind rfl
    refine ⟨id :: ids, by simp [hlength], ?_, .cons (houtcome outcome hcall) hids⟩
    rw [Transport.after_append]
    rw [happlied] at hwrites
    exact .write hplace hwrites

/-- A run that succeeds writes the dashboards of the table one after the other. -/
theorem writes_of_run (hserves : Serves client.baseUrl transport store)
    {dashboards : DashboardTable} {syncs : List Sync}
    (h : ((client.reconcileAll dashboards).run transport state).result = .ok syncs) :
    ∃ ids, ids.length = dashboards.records.length ∧
      Writes client.account (store state) (ids.zip dashboards.records)
        (store ((client.reconcileAll dashboards).run transport state).state) ∧
      List.Forall₂ (fun id sync => sync.outcome = .created ∨ sync.outcome = .updated id)
        ids syncs := by
  obtain ⟨handlings, hsent, hconversation⟩ :=
    Client.trace_reconcileAll (Dialogue.trace_run transport (client.reconcileAll dashboards) state)
  rw [h] at hconversation
  rw [Dialogue.state_run]
  exact hserves.writes_of_conversation hconversation hsent

end Serves

end Dashboards.Api
