import Dashboards.Proofs.Api.Conversation
import Mathlib.Logic.Function.Basic

/-!
# Servers and what they store

A server stores dashboards under numbers (`Store`). All that is assumed of it is `Serves`: a lookup
changes nothing, and lists what is stored under the title if it lists anything; a submission is
applied, or it is not and no answer accepts it. It may be applied and still be answered by a
failure.

A conversation with such a server only ever writes a dashboard in its place (`Store.Place`): over
the one that has its title, or under a free number if none does. So what a write in place preserves
holds at every moment of a run (`Serves.always_of_run`).
-/

namespace Dashboards

/-- The value of a field of an object. -/
def Json.field? (name : String) : Json → Option Json
  | .object entries => entries.lookup name
  | _ => none

/-- The title in the body of a submission. -/
def Json.dashboardTitle? (body : Json) : Option String := do
  match ← (← body.field? "dashboard").field? "title" with
  | .string title => some title
  | _ => none

/-- The payload of a dashboard has its title. -/
theorem Dashboard.dashboardTitle?_payload (account : Nat) (dashboard : Dashboard) :
    (dashboard.payload account).dashboardTitle? = some dashboard.title := by
  simp [Json.dashboardTitle?, Json.field?, payload, List.lookup_cons]

namespace Api

/-! ## Stores -/

/-- A dashboard as it is stored. -/
structure Stored where
  title : String
  content : Json

/-- What is stored under each number. -/
abbrev Store := Nat → Option Stored

namespace Store

variable (store : Store)

/-- The dashboard under a number has a title. -/
def Holds (id : Nat) (title : String) : Prop :=
  ∃ stored, store id = some stored ∧ stored.title = title

/-- No two dashboards have this title. -/
def AtMostOnce (title : String) : Prop :=
  ∀ id other, store.Holds id title → store.Holds other title → id = other

/-- The dashboard under a number has a title, and no other dashboard has it. -/
def Only (id : Nat) (title : String) : Prop :=
  store.Holds id title ∧ ∀ other, store.Holds other title → other = id

/-- The store with a dashboard under a number. -/
def write (id : Nat) (title : String) (content : Json) : Store :=
  Function.update store id (some ⟨title, content⟩)

/-- A number is the place of a title if no other dashboard has it, and none of another title is
there. -/
structure Place (title : String) (id : Nat) : Prop where
  only : ∀ other, store.Holds other title → other = id
  own : ∀ stored, store id = some stored → stored.title = title

/-- A listing has each stored dashboard of a title once, and beside them only other titles. -/
structure Listed (title : String) (summaries : List Summary) : Prop where
  mem_iff : ∀ id, ⟨id, title⟩ ∈ summaries ↔ store.Holds id title
  once : (summaries.filter fun summary => summary.title = title).Nodup

variable {store} {title : String} {id : Nat} {content : Json}

/-- What is written is there. -/
@[simp]
theorem write_self : (store.write id title content) id = some ⟨title, content⟩ :=
  Function.update_self ..

/-- A write leaves what is under other numbers. -/
theorem write_of_ne {other : Nat} (h : other ≠ id) :
    (store.write id title content) other = store other :=
  Function.update_of_ne h ..

/-- A write in its place leaves all dashboards of other titles. -/
theorem Place.write_iff (h : store.Place title id) {other : Nat} {stored : Stored}
    (hne : stored.title ≠ title) :
    (store.write id title content) other = some stored ↔ store other = some stored := by
  by_cases hid : other = id
  · subst hid
    rw [write_self]
    constructor
    · intro heq
      exact absurd (congrArg Stored.title (Option.some.inj heq)).symm hne
    · exact fun hstored => absurd (h.own stored hstored) hne
  · rw [write_of_ne hid]

/-- A write in its place leaves which dashboards have another title. -/
theorem Place.holds_write_iff (h : store.Place title id) {other : Nat} {title' : String}
    (hne : title' ≠ title) :
    (store.write id title content).Holds other title' ↔ store.Holds other title' := by
  constructor
  all_goals
    rintro ⟨stored, hstored, rfl⟩
    exact ⟨stored, by simpa only [h.write_iff hne] using hstored, rfl⟩

/-- After a write in its place a dashboard is the only one of its title. -/
theorem Place.only_write (h : store.Place title id) :
    (store.write id title content).Only id title := by
  refine ⟨⟨_, write_self, rfl⟩, ?_⟩
  rintro other ⟨stored, hstored, htitle⟩
  by_contra hne
  rw [write_of_ne hne] at hstored
  exact hne (h.only other ⟨stored, hstored, htitle⟩)

/-- The place of a title is where the only dashboard of that title is, and of no other title. -/
theorem Place.eq_iff_of_only (h : store.Place title id) {other : Nat} {title' : String}
    (honly : store.Only other title') : other = id ↔ title' = title := by
  obtain ⟨⟨stored, hstored, rfl⟩, -⟩ := honly
  constructor
  · rintro rfl
    exact h.own stored hstored
  · exact fun htitle => h.only other ⟨stored, hstored, htitle⟩

/-- A write in its place leaves which dashboard is the only one of a title. -/
theorem Place.only_write_of_only (h : store.Place title id) {other : Nat} {title' : String}
    (honly : store.Only other title') : (store.write id title content).Only other title' := by
  by_cases htitle : title' = title
  · cases (h.eq_iff_of_only honly).2 htitle
    rw [htitle]
    exact h.only_write
  · refine ⟨(h.holds_write_iff htitle).2 honly.1, fun another hanother => ?_⟩
    exact honly.2 another ((h.holds_write_iff htitle).1 hanother)

/-- A write in its place makes no title occur twice. -/
theorem Place.atMostOnce_write (h : store.Place title id) {title' : String}
    (honce : store.AtMostOnce title') : (store.write id title content).AtMostOnce title' := by
  intro i j hi hj
  by_cases htitle : title' = title
  · subst htitle
    rw [h.only_write.2 i hi, h.only_write.2 j hj]
  · exact honce i j ((h.holds_write_iff htitle).1 hi) ((h.holds_write_iff htitle).1 hj)

/-- Where a listing calls for a new dashboard, any free number is its place. -/
theorem Listed.place_of_created {answer : Except Error Response}
    (hlisted : ∀ summaries, Lists answer summaries → store.Listed title summaries)
    (hcall : CallsFor title answer .created) (hfree : store id = none) : store.Place title id := by
  cases hcall with
  | created hlists hnone =>
  refine ⟨fun other hother => ?_, fun stored hstored => by rw [hfree] at hstored; cases hstored⟩
  exact absurd rfl (hnone _ (((hlisted _ hlists).mem_iff other).2 hother))

/-- Where a listing calls for a replacement, it names the place of the title. -/
theorem Listed.place_of_updated {answer : Except Error Response}
    (hlisted : ∀ summaries, Lists answer summaries → store.Listed title summaries)
    (hcall : CallsFor title answer (.updated id)) :
    store.Place title id ∧ store.Holds id title := by
  cases hcall with
  | updated hlists hnone =>
  have hmem := (hlisted _ hlists).mem_iff
  have hholds : store.Holds id title := (hmem id).1 (by simp)
  refine ⟨⟨fun other hother => ?_, fun stored hstored => ?_⟩, hholds⟩
  · have hentry := (hmem other).2 hother
    rw [List.mem_append, List.mem_cons] at hentry
    rcases hentry with hbefore | heq | hafter
    · exact absurd rfl (hnone _ (List.mem_append_left _ hbefore))
    · exact congrArg Summary.id heq
    · exact absurd rfl (hnone _ (List.mem_append_right _ hafter))
  · obtain ⟨stored', hstored', htitle⟩ := hholds
    cases hstored.symm.trans hstored'
    exact htitle

end Store

/-! ## Servers -/

variable {σ : Type}

/-- A transport leads to a server with a store, at an address. -/
structure Serves (baseUrl : String) (transport : Transport σ) (store : σ → Store) : Prop where
  /-- A lookup changes nothing. -/
  store_lookup : ∀ key title state,
    store (transport (.lookup baseUrl key title) state).2 = store state
  /-- What a lookup lists is what is stored. -/
  listed : ∀ key title state summaries,
    Lists (transport (.lookup baseUrl key title) state).1 summaries →
      (store state).Listed title summaries
  /-- A new dashboard is stored under a free number, or it is not stored and not accepted. -/
  creation : ∀ key body title state, body.dashboardTitle? = some title →
    (∃ id, store state id = none ∧
      store (transport (.creation baseUrl key body) state).2 =
        (store state).write id title body) ∨
    (store (transport (.creation baseUrl key body) state).2 = store state ∧
      ¬ Accepts (transport (.creation baseUrl key body) state).1)
  /-- A dashboard that is there is replaced, or it is not and the new one is not accepted. -/
  replacement : ∀ key id body title state, (store state id).isSome →
    body.dashboardTitle? = some title →
    store (transport (.replacement baseUrl key id body) state).2 =
        (store state).write id title body ∨
    (store (transport (.replacement baseUrl key id body) state).2 = store state ∧
      ¬ Accepts (transport (.replacement baseUrl key id body) state).1)

namespace Serves

variable {client : Client} {transport : Transport σ} {store : σ → Store} {state : σ}
  {dashboard : Dashboard} {handling : Handling}

/-- The lookup of a dashboard changes nothing. -/
theorem store_of_obeys (hserves : Serves client.baseUrl transport store)
    (hobeys : handling.Obeys client dashboard) :
    store (transport handling.lookup.request state).2 = store state := by
  rw [hobeys.lookup_eq]
  exact hserves.store_lookup ..

/-- A submission writes the dashboard in its place, or it is not accepted and nothing changes. -/
theorem submission_cases (hserves : Serves client.baseUrl transport store)
    (hobeys : handling.Obeys client dashboard)
    (hlookup : (transport handling.lookup.request state).1 = handling.lookup.answer)
    {exchange : Exchange} (hsubmission : handling.submission = some exchange) {later : σ}
    (hlater : store later = store state)
    (hanswer : (transport exchange.request later).1 = exchange.answer) :
    (store (transport exchange.request later).2 = store state ∧ ¬ handling.Accepted) ∨
      ∃ id, (store state).Place dashboard.title id ∧
        (∀ outcome, CallsFor dashboard.title handling.lookup.answer outcome →
          outcome = .created ∨ outcome = .updated id) ∧
        store (transport exchange.request later).2 =
          (store state).write id dashboard.title (dashboard.payload client.account) := by
  have hlisted : ∀ summaries, Lists handling.lookup.answer summaries →
      (store state).Listed dashboard.title summaries := by
    rw [← hlookup, hobeys.lookup_eq]
    exact hserves.listed _ _ _
  have hrefused : ¬ Accepts (transport exchange.request later).1 → ¬ handling.Accepted := by
    rintro hrefused ⟨exchange', hexchange', haccepts⟩
    cases hsubmission.symm.trans hexchange'
    exact hrefused (hanswer ▸ haccepts)
  have htitle := dashboard.dashboardTitle?_payload client.account
  obtain ⟨outcome, hcall⟩ := hobeys.exists_callsFor hsubmission
  cases outcome with
  | created =>
    obtain ⟨answer, hrequest⟩ := hobeys.creates_iff.2 hcall
    cases hsubmission.symm.trans hrequest
    rcases hserves.creation _ _ _ later htitle with ⟨id, hfree, happlied⟩ | ⟨hsame, hfailed⟩
    · rw [hlater] at hfree happlied
      refine .inr ⟨id, Store.Listed.place_of_created hlisted hcall hfree, ?_, happlied⟩
      exact fun other hother => .inl (hother.unique hcall)
    · exact .inl ⟨hsame.trans hlater, hrefused hfailed⟩
  | updated id =>
    obtain ⟨answer, hrequest⟩ := (hobeys.replaces_iff id).2 hcall
    cases hsubmission.symm.trans hrequest
    obtain ⟨hplace, stored, hstored, -⟩ := Store.Listed.place_of_updated hlisted hcall
    have hthere : (store later id).isSome := by rw [hlater, hstored]; rfl
    rcases hserves.replacement _ id _ _ later hthere htitle with happlied | ⟨hsame, hfailed⟩
    · rw [hlater] at happlied
      exact .inr ⟨id, hplace, fun other hother => .inr (hother.unique hcall), happlied⟩
    · exact .inl ⟨hsame.trans hlater, hrefused hfailed⟩

variable {dashboards : List Dashboard} {handlings : List Handling} {sent : List Request}

/-- What the write of a dashboard in its place preserves holds while the dashboard is handled, and
then in all that follows if it does from there. -/
theorem always_of_handling (hserves : Serves client.baseUrl transport store) {P : Store → Prop}
    (hwrite : ∀ now id, P now → now.Place dashboard.title id →
      P (now.write id dashboard.title (dashboard.payload client.account)))
    (hobeys : handling.Obeys client dashboard) {rest : List Exchange}
    (hsent : transport.exchanges sent state = handling.exchanges ++ rest) (hstate : P (store state))
    (hrest : ∀ others later, transport.exchanges others later = rest → P (store later) →
      transport.Always (fun now => P (store now)) others later) :
    transport.Always (fun now => P (store now)) sent state := by
  obtain ⟨others, rfl, hlookup, hothers⟩ := Transport.exchanges_eq_cons_iff.1 hsent
  have hlater : store (transport handling.lookup.request state).2 = store state :=
    hserves.store_of_obeys hobeys
  have hkept : P (store (transport handling.lookup.request state).2) := by rwa [hlater]
  refine ⟨hstate, ?_⟩
  cases hsubmission : handling.submission with
  | none =>
    rw [hsubmission] at hothers
    exact hrest others _ hothers hkept
  | some exchange =>
    rw [hsubmission] at hothers
    obtain ⟨behind, rfl, hanswer, hbehind⟩ := Transport.exchanges_eq_cons_iff.1 hothers
    refine ⟨hkept, hrest behind _ hbehind ?_⟩
    rcases hserves.submission_cases hobeys hlookup hsubmission hlater hanswer with
      ⟨hsame, -⟩ | ⟨id, hplace, -, happlied⟩
    · rwa [hsame]
    · rw [happlied]
      exact hwrite _ id hstate hplace

/-- What every write of a dashboard in its place preserves holds at every moment of a
conversation. -/
theorem always_of_conversation (hserves : Serves client.baseUrl transport store)
    {P : Store → Prop}
    (hwrite : ∀ now id, ∀ dashboard ∈ dashboards, P now → now.Place dashboard.title id →
      P (now.write id dashboard.title (dashboard.payload client.account)))
    {syncs : Option (List Sync)} (h : Conversation client dashboards handlings syncs)
    (hsent : transport.exchanges sent state = handlings.flatMap Handling.exchanges)
    (hstate : P (store state)) : transport.Always (fun now => P (store now)) sent state := by
  have silence : ∀ {others later}, transport.exchanges others later = [] → P (store later) →
      transport.Always (fun now => P (store now)) others later := by
    intro others later hothers hlater
    cases others with
    | nil => exact hlater
    | cons => cases hothers
  induction h generalizing sent state with
  | done => exact silence hsent hstate
  | stopped hobeys _ =>
    rw [List.flatMap_cons, List.flatMap_nil] at hsent
    exact hserves.always_of_handling (fun now id => hwrite now id _ (by simp)) hobeys hsent hstate
      fun _ _ => silence
  | accepted hobeys _ _ _ ih =>
    rw [List.flatMap_cons] at hsent
    refine hserves.always_of_handling (fun now id => hwrite now id _ (by simp)) hobeys hsent hstate
      fun others later hothers hlater => ih (fun now id dashboard hmem => ?_) hothers hlater
    exact hwrite now id dashboard (by simp [hmem])

/-- What every write of a dashboard in its place preserves holds at every moment of a run. -/
theorem always_of_run (hserves : Serves client.baseUrl transport store)
    {dashboards : DashboardTable} {P : Store → Prop}
    (hwrite : ∀ now id, ∀ dashboard ∈ dashboards.records, P now → now.Place dashboard.title id →
      P (now.write id dashboard.title (dashboard.payload client.account)))
    (hstate : P (store state)) :
    transport.Always (fun now => P (store now))
      ((client.reconcileAll dashboards).run transport state).sent state := by
  obtain ⟨handlings, hsent, hconversation⟩ :=
    Client.trace_reconcileAll (Dialogue.trace_run transport (client.reconcileAll dashboards) state)
  exact hserves.always_of_conversation hwrite hconversation hsent hstate

end Serves

end Api

end Dashboards
