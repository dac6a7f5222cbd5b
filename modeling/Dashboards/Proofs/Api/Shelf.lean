import Dashboards.Proofs.Api.Store
import Mathlib.Data.List.Nodup

/-!
# A server

A shelf is a server that keeps its dashboards in a list, each under its position. It answers a
lookup with a listing of all of them, and it does so only where its own listing reads back as what
it stores. Requests may fail, as its mishaps say: they get lost, or they are applied and the answer
gets lost. Whatever they are, it is a server as `Serves` asks for (`Shelf.serves`).
-/

namespace Dashboards.Api

/-- What may happen to a request. -/
inductive Mishap where
  /-- It does not get through. -/
  | lost
  /-- It gets through, but the answer does not. -/
  | unconfirmed
deriving DecidableEq

/-- A server with its dashboards in order. -/
structure Shelf where
  stored : List Stored
  /-- What happens to the requests to come, if anything. -/
  mishaps : List (Option Mishap) := []

namespace Shelf

/-- What is stored under each number: the dashboard at that position. -/
def store (shelf : Shelf) : Store :=
  fun id => shelf.stored[id]?

/-- The dashboards as a listing has them. -/
def summaries (stored : List Stored) : List Summary :=
  stored.zipIdx.map fun (dashboard, id) => ⟨id, dashboard.title⟩

/-- The text of a listing of all dashboards. -/
def listing (stored : List Stored) : String :=
  Json.compact <| .object [("dashboards", .array <| (summaries stored).map fun summary =>
    .object [("id", .nat summary.id), ("title", .string summary.title)])]

/-- The answer to a lookup. -/
def answerLookup (stored : List Stored) : Response :=
  match Listing.ofText (listing stored) with
  | .ok listed => if listed = summaries stored then ⟨200, listing stored⟩ else ⟨500, ""⟩
  | .error _ => ⟨500, ""⟩

/-- The dashboards with one more. -/
def create (body : Json) (stored : List Stored) : Response × List Stored :=
  match body.dashboardTitle? with
  | some title => (⟨201, ""⟩, stored ++ [⟨title, body⟩])
  | none => (⟨422, ""⟩, stored)

/-- The dashboards with another one at the address of one of them. -/
def replace (baseUrl url : String) (body : Json) (stored : List Stored) :
    Response × List Stored :=
  match (List.range stored.length).find? fun id =>
      url == baseUrl ++ "dashboards/" ++ toString id ++ ".json", body.dashboardTitle? with
  | some id, some title => (⟨200, ""⟩, stored.set id ⟨title, body⟩)
  | _, _ => (⟨404, ""⟩, stored)

/-- The response to a request that gets through, and the dashboards behind it. -/
def handle (baseUrl : String) (request : Request) (stored : List Stored) :
    Response × List Stored :=
  match request.method, request.body with
  | .get, _ => (answerLookup stored, stored)
  | .post, some body => create body stored
  | .put, some body => replace baseUrl request.url body stored
  | _, none => (⟨400, ""⟩, stored)

/-- The shelf at an address, as what answers requests. -/
def transport (baseUrl : String) : Transport Shelf := fun request shelf =>
  let (response, stored) := handle baseUrl request shelf.stored
  match shelf.mishaps with
  | some .lost :: mishaps => (.ok ⟨503, ""⟩, ⟨shelf.stored, mishaps⟩)
  | some .unconfirmed :: mishaps => (.error (.stated .api "no answer"), ⟨stored, mishaps⟩)
  | none :: mishaps => (.ok response, ⟨stored, mishaps⟩)
  | [] => (.ok response, ⟨stored, []⟩)

variable {baseUrl : String} {shelf : Shelf}

/-- A request gets through and changes the shelf, or it does not and no answer accepts it. -/
theorem transport_cases (baseUrl : String) (request : Request) (shelf : Shelf) :
    ((transport baseUrl request shelf).2.stored = (handle baseUrl request shelf.stored).2 ∧
      ∀ response, (transport baseUrl request shelf).1 = .ok response →
        response = (handle baseUrl request shelf.stored).1) ∨
    ((transport baseUrl request shelf).2.stored = shelf.stored ∧
      (transport baseUrl request shelf).1 = .ok ⟨503, ""⟩) := by
  obtain ⟨stored, mishaps⟩ := shelf
  match mishaps with
  | [] | none :: _ => exact .inl ⟨rfl, fun _ h => (Except.ok.inj h).symm⟩
  | some .lost :: _ => exact .inr ⟨rfl, rfl⟩
  | some .unconfirmed :: _ => exact .inl ⟨rfl, nofun⟩

/-- A response of another status than 200 and 201 accepts nothing. -/
theorem not_accepts {response : Response} (h : response.status ≠ 200 ∧ response.status ≠ 201) :
    ¬ Accepts (.ok response) := by
  rintro ⟨_, ⟨⟩, h200 | h201⟩
  · exact h.1 h200
  · exact h.2 h201

/-- A listing of all dashboards has each dashboard of a title once. -/
theorem listed_summaries (title : String) :
    shelf.store.Listed title (summaries shelf.stored) where
  mem_iff id := by
    simp only [summaries, List.mem_map, List.mem_zipIdx_iff_getElem?, Prod.exists,
      Summary.mk.injEq, Store.Holds, store]
    constructor
    · rintro ⟨dashboard, _, hget, rfl, htitle⟩
      exact ⟨dashboard, hget, htitle⟩
    · rintro ⟨dashboard, hget, htitle⟩
      exact ⟨dashboard, id, hget, rfl, htitle⟩
  once := by
    have hids : (summaries shelf.stored).map Summary.id = List.range' 0 shelf.stored.length := by
      rw [summaries, List.map_map, ← List.zipIdx_map_snd]
      rfl
    have hnodup : (summaries shelf.stored).Nodup :=
      List.Nodup.of_map Summary.id (hids ▸ List.nodup_range')
    exact hnodup.sublist List.filter_sublist

/-- A new dashboard at the end is under a free number. -/
theorem store_of_append {later : Shelf} {title : String} {body : Json}
    (h : later.stored = shelf.stored ++ [⟨title, body⟩]) :
    later.store = shelf.store.write shelf.stored.length title body := by
  funext id
  by_cases hid : id = shelf.stored.length
  · simp [store, h, hid]
  · rw [Store.write_of_ne hid, store, h, List.getElem?_append]
    split
    · rfl
    · next hge =>
      rw [List.getElem?_eq_none (by rw [List.length_singleton]; omega)]
      exact (List.getElem?_eq_none (by omega)).symm

/-- A dashboard in the place of another one is under its number. -/
theorem store_of_set {later : Shelf} {id : Nat} {title : String} {body : Json}
    (hid : id < shelf.stored.length) (h : later.stored = shelf.stored.set id ⟨title, body⟩) :
    later.store = shelf.store.write id title body := by
  funext other
  by_cases hother : other = id
  · subst hother
    simp [store, h, hid]
  · rw [Store.write_of_ne hother, store, h, List.getElem?_set_ne (Ne.symm hother), store]

/-- The address of a dashboard leads to it. -/
theorem find?_url {length id : Nat} (hid : id < length) :
    ((List.range length).find? fun other =>
      baseUrl ++ "dashboards/" ++ toString id ++ ".json" ==
        baseUrl ++ "dashboards/" ++ toString other ++ ".json") = some id := by
  cases hfind : (List.range length).find? fun other =>
      baseUrl ++ "dashboards/" ++ toString id ++ ".json" ==
        baseUrl ++ "dashboards/" ++ toString other ++ ".json" with
  | none =>
    have := List.find?_eq_none.1 hfind id (List.mem_range.2 hid)
    simp at this
  | some other =>
    have hurl := List.find?_some hfind
    rw [Request.id_eq_of_url_eq (beq_iff_eq.1 hurl)]

/-- A shelf is a server. -/
theorem serves : Serves baseUrl (transport baseUrl) store where
  store_lookup key title shelf := by
    have hsame : (transport baseUrl (.lookup baseUrl key title) shelf).2.stored = shelf.stored := by
      rcases transport_cases baseUrl (.lookup baseUrl key title) shelf with ⟨h, -⟩ | ⟨h, -⟩
      · exact h
      · exact h
    funext id
    rw [store, hsame, store]
  listed key title shelf listed := by
    rintro ⟨body, hanswer, hbody⟩
    rcases transport_cases baseUrl (.lookup baseUrl key title) shelf with ⟨-, h⟩ | ⟨-, h⟩
    · have hresponse := h _ hanswer
      simp only [handle, Request.lookup, answerLookup] at hresponse
      split at hresponse
      · next summaries htext =>
        split at hresponse
        · next hsummaries =>
          cases hresponse
          cases (Listing.ofText_eq_ok_iff.2 hbody).symm.trans htext
          rw [hsummaries]
          exact listed_summaries title
        · cases hresponse
      · cases hresponse
    · cases h.symm.trans hanswer
  creation key body title shelf htitle := by
    have hcreate : handle baseUrl (.creation baseUrl key body) shelf.stored =
        (⟨201, ""⟩, shelf.stored ++ [⟨title, body⟩]) := by
      simp [handle, Request.creation, create, htitle]
    rcases transport_cases baseUrl (.creation baseUrl key body) shelf with ⟨h, -⟩ | ⟨h, hanswer⟩
    · rw [hcreate] at h
      exact .inl ⟨shelf.stored.length, by simp [store], store_of_append h⟩
    · refine .inr ⟨by funext id; rw [store, h, store], ?_⟩
      rw [hanswer]
      exact not_accepts (by decide)
  replacement key id body title shelf hthere htitle := by
    have hid : id < shelf.stored.length := by simpa [store] using hthere
    have hreplace : handle baseUrl (.replacement baseUrl key id body) shelf.stored =
        (⟨200, ""⟩, shelf.stored.set id ⟨title, body⟩) := by
      simp only [handle, Request.replacement, replace, find?_url hid, htitle]
    rcases transport_cases baseUrl (.replacement baseUrl key id body) shelf with
      ⟨h, -⟩ | ⟨h, hanswer⟩
    · rw [hreplace] at h
      exact .inl (store_of_set hid h)
    · refine .inr ⟨by funext id; rw [store, h, store], ?_⟩
      rw [hanswer]
      exact not_accepts (by decide)

/-- Dashboards of different titles make no title occur twice. -/
theorem atMostOnce_of_nodup (h : (shelf.stored.map Stored.title).Nodup) (title : String) :
    shelf.store.AtMostOnce title := by
  rintro id other ⟨dashboard, hid, rfl⟩ ⟨dashboard', hother, htitle⟩
  have hget : ∀ {n d}, shelf.store n = some d →
      (shelf.stored.map Stored.title)[n]? = some d.title := by
    intro n d hn
    rw [List.getElem?_map, show shelf.stored[n]? = some d from hn]
    rfl
  have hlength : id < (shelf.stored.map Stored.title).length := by
    obtain ⟨hlt, -⟩ := List.getElem?_eq_some_iff.1 (hget hid)
    exact hlt
  exact (List.getElem?_inj hlength h).1 ((hget hid).trans (htitle ▸ (hget hother).symm))

end Shelf

end Dashboards.Api
