import Dashboards.Proofs.Api.Shelf
import Dashboards.Proofs.Api.Writes
import Dashboards.Proofs.Sequence

/-!
# Runs that are repeated

A client runs over the same dashboards again and again, and every run may fail or break off at any
moment (`Reaches`). If the dashboards have different titles, none of which occurs twice at the
start, then none ever does and dashboards of other titles stay as they are, whatever failed in
between. A run that succeeds leaves exactly one dashboard of each title, with the content that the
client gave it (`reconcileAll_converges`).
-/

namespace Dashboards.Api

variable {σ : Type}

/-- The states that a client leads to by runs over the same dashboards. A run may break off behind
any of its requests. -/
inductive Reaches (client : Client) (dashboards : DashboardTable) (transport : Transport σ)
    (start : σ) : σ → Prop
  | start : Reaches client dashboards transport start start
  | run {state : σ} {sent : List Request} : Reaches client dashboards transport start state →
      sent <+: ((client.reconcileAll dashboards).run transport state).sent →
      Reaches client dashboards transport start (transport.after sent state)

variable {client : Client} {dashboards : DashboardTable} {transport : Transport σ}
  {store : σ → Store} {start state : σ}

/-- A run leads to the state that it leaves. -/
theorem Reaches.of_run (h : Reaches client dashboards transport start state) :
    Reaches client dashboards transport start
      ((client.reconcileAll dashboards).run transport state).state := by
  rw [Dialogue.state_run]
  exact h.run (List.prefix_refl _)

/-- What every write of a dashboard in its place preserves holds in all states that runs lead to. -/
theorem Reaches.invariant (hserves : Serves client.baseUrl transport store) {P : Store → Prop}
    (hwrite : ∀ now id, ∀ dashboard ∈ dashboards.records, P now → now.Place dashboard.title id →
      P (now.write id dashboard.title (dashboard.payload client.account)))
    (h : Reaches client dashboards transport start state) (hstart : P (store start)) :
    P (store state) := by
  induction h with
  | start => exact hstart
  | run _ hsent ih => exact (hserves.always_of_run hwrite ih).of_isPrefix hsent

/-- A run that succeeds leaves each dashboard whose title no other one has, as the only one of its
title. -/
theorem Serves.only_of_run (hserves : Serves client.baseUrl transport store)
    (htitles : (dashboards.records.map Dashboard.title).Nodup) {syncs : List Sync}
    (h : ((client.reconcileAll dashboards).run transport state).result = .ok syncs) :
    ∀ dashboard ∈ dashboards.records, ∃ id,
      store ((client.reconcileAll dashboards).run transport state).state id =
          some ⟨dashboard.title, dashboard.payload client.account⟩ ∧
      (store ((client.reconcileAll dashboards).run transport state).state).Only id
        dashboard.title := by
  intro dashboard hdashboard
  obtain ⟨ids, hlength, hwrites, -⟩ := hserves.writes_of_run h
  have hsnd : (ids.zip dashboards.records).map Prod.snd = dashboards.records :=
    List.map_snd_zip (Nat.le_of_eq hlength.symm)
  rw [← hsnd] at hdashboard
  obtain ⟨⟨id, _⟩, hentry, rfl⟩ := List.mem_map.1 hdashboard
  obtain ⟨before, after, hsplit⟩ := List.append_of_mem hentry
  rw [hsplit] at hwrites
  refine ⟨id, hwrites.last_of_append fun entry hentry htitle => ?_⟩
  rw [← hsnd, hsplit] at htitles
  simp only [List.map_append, List.map_cons, List.nodup_append, List.nodup_cons] at htitles
  exact htitles.2.1.1 (List.mem_map.2 ⟨_, List.mem_map_of_mem hentry, htitle⟩)

/-- Runs over dashboards of different titles, none of which occurs twice at the start, never make
one occur twice and leave dashboards of other titles as they are. A run that succeeds leaves
exactly one dashboard of each title, with its content. -/
theorem reconcileAll_converges (hserves : Serves client.baseUrl transport store)
    (htitles : (dashboards.records.map Dashboard.title).Nodup)
    (honce : ∀ dashboard ∈ dashboards.records, (store start).AtMostOnce dashboard.title)
    (hreaches : Reaches client dashboards transport start state) :
    (∀ dashboard ∈ dashboards.records, (store state).AtMostOnce dashboard.title) ∧
    (∀ id stored, (∀ dashboard ∈ dashboards.records, stored.title ≠ dashboard.title) →
      (store state id = some stored ↔ store start id = some stored)) ∧
    (∀ syncs, ((client.reconcileAll dashboards).run transport state).result = .ok syncs →
      ∀ dashboard ∈ dashboards.records, ∃ id,
        store ((client.reconcileAll dashboards).run transport state).state id =
          some ⟨dashboard.title, dashboard.payload client.account⟩ ∧
        ∀ other, (store ((client.reconcileAll dashboards).run transport state).state).Holds other
          dashboard.title → other = id) := by
  refine ⟨fun dashboard hdashboard => ?_, fun id stored hother => ?_, fun syncs hrun => ?_⟩
  · exact hreaches.invariant hserves (P := fun now => now.AtMostOnce dashboard.title)
      (fun _ _ _ _ hnow hplace => hplace.atMostOnce_write hnow) (honce dashboard hdashboard)
  · refine hreaches.invariant hserves
      (P := fun now => now id = some stored ↔ store start id = some stored) ?_ Iff.rfl
    exact fun _ _ dashboard hdashboard hnow hplace =>
      (hplace.write_iff (hother dashboard hdashboard)).trans hnow
  · intro dashboard hdashboard
    obtain ⟨id, hstored, -, honly⟩ := hserves.only_of_run htitles hrun dashboard hdashboard
    exact ⟨id, hstored, honly⟩

/-- Two dashboards. -/
def retriedDashboards : DashboardTable :=
  ⟨[("alpha", ⟨"alpha", "Alpha", []⟩), ("beta", ⟨"beta", "Beta", []⟩)], by decide⟩

/-- A shelf with a dashboard of another title and an old one of the second title, where the answer
to the second request gets lost. -/
def retriedShelf : Shelf where
  stored := [⟨"Gamma", .null⟩, ⟨"Beta", .null⟩]
  mishaps := [none, some .unconfirmed]

/-- The run over the two dashboards from a shelf. -/
def retriedRun (shelf : Shelf) : Run Shelf (List Sync) :=
  (Client.reconcileAll ⟨"secret", 1234, defaultBaseUrl⟩ retriedDashboards).run
    (Shelf.transport defaultBaseUrl) shelf

/-- The first run creates a dashboard but fails. The second one finds it, and leaves exactly one
dashboard of each title. -/
theorem reconcileAll_converges_retry :
    (retriedRun retriedShelf).result.toOption = none ∧
      (retriedRun retriedShelf).state.store 0 = some ⟨"Gamma", .null⟩ ∧
      ∃ syncs, (retriedRun (retriedRun retriedShelf).state).result = .ok syncs ∧
        syncs.map Sync.outcome = [.updated 2, .updated 1] ∧
        ∀ dashboard ∈ retriedDashboards.records, ∃ id,
          (retriedRun (retriedRun retriedShelf).state).state.store id =
            some ⟨dashboard.title, dashboard.payload 1234⟩ ∧
          ∀ other, (retriedRun (retriedRun retriedShelf).state).state.store.Holds other
            dashboard.title → other = id := by
  have hfailed : (retriedRun retriedShelf).result.toOption = none := by decide +kernel
  have hsecond : (retriedRun (retriedRun retriedShelf).state).result.toOption.map
      (List.map Sync.outcome) = some [.updated 2, .updated 1] := by decide +kernel
  obtain ⟨syncs, hresult, houtcomes⟩ := exists_ok_of_toOption_map hsecond
  obtain ⟨-, hkept, hdone⟩ := reconcileAll_converges Shelf.serves (by decide)
    (fun dashboard _ => Shelf.atMostOnce_of_nodup (by decide) dashboard.title)
    (Reaches.start.of_run : Reaches ⟨"secret", 1234, defaultBaseUrl⟩ retriedDashboards
      (Shelf.transport defaultBaseUrl) retriedShelf (retriedRun retriedShelf).state)
  exact ⟨hfailed, (hkept 0 ⟨"Gamma", .null⟩ (by decide)).2 rfl, syncs, hresult, houtcomes,
    hdone syncs hresult⟩

end Dashboards.Api
