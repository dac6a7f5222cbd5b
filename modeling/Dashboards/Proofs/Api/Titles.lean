import Dashboards.Compiled
import Dashboards.Proofs.Api.Shelf
import Dashboards.Proofs.Api.Writes
import Dashboards.Proofs.Sequence

/-!
# Titles and numbers

A document tells its dashboards apart by their names, a client by their titles. So of the dashboards
of a document those that share a title are written under one number, and the last of them is what
remains (`reconcileAll_keeps_last_of_title`). A document may have such dashboards, and then a run
over it that succeeds loses all but the last of them (`run_over_twins_loses_first`).
-/

namespace Dashboards.Api

variable {σ : Type} {client : Client} {dashboards : DashboardTable} {transport : Transport σ}
  {store : σ → Store} {state : σ}

/-- A run that succeeds writes the dashboards one after the other, two of them under the same number
exactly if they have the same title. A dashboard whose title no later one has is there in the end,
and the only one of its title. -/
theorem reconcileAll_keeps_last_of_title (hserves : Serves client.baseUrl transport store)
    {syncs : List Sync}
    (hrun : ((client.reconcileAll dashboards).run transport state).result = .ok syncs) :
    ∃ ids : List Nat, ids.length = dashboards.records.length ∧
      Writes client.account (store state) (ids.zip dashboards.records)
        (store ((client.reconcileAll dashboards).run transport state).state) ∧
      List.Forall₂ (fun id sync => sync.outcome = .created ∨ sync.outcome = .updated id)
        ids syncs ∧
      (ids.zip dashboards.records).Pairwise (fun entry other =>
        entry.1 = other.1 ↔ entry.2.title = other.2.title) ∧
      ∀ before id dashboard after,
        ids.zip dashboards.records = before ++ (id, dashboard) :: after →
        (∀ entry ∈ after, entry.2.title ≠ dashboard.title) →
        store ((client.reconcileAll dashboards).run transport state).state id =
            some ⟨dashboard.title, dashboard.payload client.account⟩ ∧
          ∀ other, (store ((client.reconcileAll dashboards).run transport state).state).Holds other
            dashboard.title → other = id := by
  obtain ⟨ids, hlength, hwrites, houtcomes⟩ := hserves.writes_of_run hrun
  refine ⟨ids, hlength, hwrites, houtcomes, hwrites.pairwise, ?_⟩
  intro before id dashboard after hsplit hafter
  rw [hsplit] at hwrites
  obtain ⟨hstored, -, honly⟩ := hwrites.last_of_append hafter
  exact ⟨hstored, honly⟩

/-! ## Dashboards that share a title -/

/-- A document with two dashboards of one title. -/
def twinText : String := "dashboards:
  first:
    title: Same
    widgets:
    - {query: {title: T, nrql: Q, visualization: list}, row: 1, column: 1, width: 1, height: 1}
  second:
    title: Same
"

/-- The first of the two dashboards. -/
def firstTwin : Dashboard :=
  ⟨"first", "Same", [⟨"T", "Q", .list, ⟨1, 1, 1, 1⟩, none⟩]⟩

/-- The second of the two dashboards. -/
def secondTwin : Dashboard :=
  ⟨"second", "Same", []⟩

/-- The dashboards of the document. -/
def twins : DashboardTable :=
  ⟨[("first", firstTwin), ("second", secondTwin)], by decide⟩

/-- The document compiles to the two dashboards. -/
theorem ofText_twinText :
    ∃ compiled, (Compiled.ofText twinText).result = .ok compiled ∧ compiled.dashboards = twins := by
  have hentries : (Compiled.ofText twinText).result.toOption.map (·.dashboards.entries) =
      some twins.entries := by decide +kernel
  obtain ⟨compiled, hcompiled, htwins⟩ := exists_ok_of_toOption_map hentries
  exact ⟨compiled, hcompiled, Table.ext htwins⟩

/-- The run over the two dashboards from an empty shelf. -/
def twinRun : Run Shelf (List Sync) :=
  (Client.reconcileAll ⟨"secret", 1234, defaultBaseUrl⟩ twins).run
    (Shelf.transport defaultBaseUrl) ⟨[], []⟩

/-- The run creates a dashboard and replaces it. -/
theorem twinRun_result :
    twinRun.result = .ok [⟨"first", "Same", .created⟩, ⟨"second", "Same", .updated 0⟩] := by
  have hsyncs : twinRun.result.toOption.map id =
      some [⟨"first", "Same", .created⟩, ⟨"second", "Same", .updated 0⟩] := by decide +kernel
  obtain ⟨syncs, hresult, rfl⟩ := exists_ok_of_toOption_map hsyncs
  exact hresult

/-- Of the two dashboards, both written under one number, the second one remains. -/
theorem reconcileAll_keeps_last_of_title_twins :
    ∃ id, twinRun.state.store id = some ⟨"Same", secondTwin.payload 1234⟩ ∧
      ∀ other, twinRun.state.store.Holds other "Same" → other = id := by
  have hrun : ((Client.reconcileAll ⟨"secret", 1234, defaultBaseUrl⟩ twins).run
      (Shelf.transport defaultBaseUrl) ⟨[], []⟩).result = .ok _ := twinRun_result
  have hserves : Serves (Client.mk "secret" 1234 defaultBaseUrl).baseUrl
      (Shelf.transport defaultBaseUrl) Shelf.store := Shelf.serves
  obtain ⟨ids, hlength, -, -, -, hlast⟩ := reconcileAll_keeps_last_of_title hserves hrun
  match ids, hlength with
  | [before, id], _ =>
    exact ⟨id, hlast [(before, firstTwin)] id secondTwin [] rfl (List.forall_mem_nil _)⟩

/-- A run that succeeds may lose a dashboard of a document: of two with the same title, the second
is written over the first under its number, and the content of the first is under no number in the
end. -/
theorem run_over_twins_loses_first :
    ∃ compiled, (Compiled.ofText twinText).result = .ok compiled ∧
      ∃ run : Run Shelf (List Sync),
        run = (Client.reconcileAll ⟨"secret", 1234, defaultBaseUrl⟩ compiled.dashboards).run
          (Shelf.transport defaultBaseUrl) ⟨[], []⟩ ∧
        Serves defaultBaseUrl (Shelf.transport defaultBaseUrl) Shelf.store ∧
        run.result = .ok [⟨"first", "Same", .created⟩, ⟨"second", "Same", .updated 0⟩] ∧
        ("first", firstTwin) ∈ compiled.dashboards.entries ∧
        run.sent.map (fun request => (request.method, request.url)) =
          [(.get, defaultBaseUrl ++ "dashboards.json"),
            (.post, defaultBaseUrl ++ "dashboards.json"),
            (.get, defaultBaseUrl ++ "dashboards.json"),
            (.put, defaultBaseUrl ++ "dashboards/0.json")] ∧
        ∀ id, run.state.store id ≠ some ⟨"Same", firstTwin.payload 1234⟩ := by
  obtain ⟨compiled, hcompiled, htwins⟩ := ofText_twinText
  have hstored : twinRun.state.stored.map (fun stored => stored.content.compactChars) =
      [(secondTwin.payload 1234).compactChars] := by decide +kernel
  have hdiffer : (firstTwin.payload 1234).compactChars ≠
      (secondTwin.payload 1234).compactChars := by decide +kernel
  refine ⟨compiled, hcompiled, twinRun, by rw [htwins, twinRun], Shelf.serves, twinRun_result,
    by rw [htwins]; exact List.mem_cons_self .., by decide +kernel, fun id hfirst => hdiffer ?_⟩
  have hmem := List.mem_map_of_mem (f := fun stored : Stored => stored.content.compactChars)
    (List.mem_of_getElem? hfirst)
  rw [hstored, List.mem_singleton] at hmem
  exact hmem

end Dashboards.Api
