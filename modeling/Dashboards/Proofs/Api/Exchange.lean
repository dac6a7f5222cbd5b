import Dashboards.Api.Dialogue

/-!
# Exchanges with a transport

Requests that are sent one after the other get the answers that the transport gives in the states it
goes through (`Transport.exchanges`, `Transport.after`); this does not depend on who sends them.
What a dialogue exchanges, whatever answers it, is a trace of it (`Dialogue.Trace`). The requests of
a run and their answers are a trace with the result of the run (`Dialogue.trace_run`), so a
statement about traces holds of every run with every transport. The trace of two dialogues, one
after the other, is a trace of the first and one of the second, unless the first fails
(`Dialogue.Trace.bind_cases`).
-/

namespace Dashboards.Api

variable {σ α β : Type}

/-- A request and what came of it: a response, or a failure to get one. -/
structure Exchange where
  request : Request
  answer : Except Error Response

namespace Transport

variable (transport : Transport σ)

/-- What comes of requests that are sent one after the other. -/
def exchanges : List Request → σ → List Exchange
  | [], _ => []
  | request :: rest, state =>
    ⟨request, (transport request state).1⟩ :: exchanges rest (transport request state).2

/-- The state behind requests that are sent one after the other. -/
def after : List Request → σ → σ
  | [], state => state
  | request :: rest, state => after rest (transport request state).2

/-- Something holds of every state that requests lead through, the first one included. -/
def Always (P : σ → Prop) : List Request → σ → Prop
  | [], state => P state
  | request :: rest, state => P state ∧ Always P rest (transport request state).2

variable {transport}

@[simp]
theorem after_append (before rest : List Request) (state : σ) :
    transport.after (before ++ rest) state =
      transport.after rest (transport.after before state) := by
  induction before generalizing state with
  | nil => rfl
  | cons request before ih => rw [List.cons_append, after, ih, after]

/-- The requests that are exchanged are those that are sent. -/
theorem map_request_exchanges (requests : List Request) (state : σ) :
    (transport.exchanges requests state).map Exchange.request = requests := by
  induction requests generalizing state with
  | nil => rfl
  | cons request rest ih => rw [exchanges, List.map_cons, ih]

/-- The first of several exchanges is that of the first request, and the others follow it. -/
theorem exchanges_eq_cons_iff {requests : List Request} {state : σ} {exchange : Exchange}
    {rest : List Exchange} :
    transport.exchanges requests state = exchange :: rest ↔
      ∃ others, requests = exchange.request :: others ∧
        (transport exchange.request state).1 = exchange.answer ∧
        transport.exchanges others (transport exchange.request state).2 = rest := by
  constructor
  · intro h
    cases requests with
    | nil => cases h
    | cons request others =>
      cases h
      exact ⟨others, rfl, rfl, rfl⟩
  · rintro ⟨others, rfl, hanswer, rfl⟩
    rw [exchanges, hanswer]

/-- What holds of every state that requests lead through holds behind any of them. -/
theorem Always.of_isPrefix {P : σ → Prop} {requests sent : List Request} {state : σ}
    (h : transport.Always P requests state) (hsent : sent <+: requests) :
    P (transport.after sent state) := by
  induction sent generalizing requests state with
  | nil => cases requests with
    | nil => exact h
    | cons => exact h.1
  | cons request sent ih =>
    obtain ⟨rest, rfl⟩ := hsent
    exact ih h.2 ⟨rest, rfl⟩

end Transport

namespace Dialogue

/-- What a dialogue exchanges and what it ends with, for some answers to its requests. -/
inductive Trace : Dialogue α → List Exchange → Except Error α → Prop
  | ended {result : Except Error α} : Trace (done result) [] result
  | told {event : Event} {next : Dialogue α} {exchanges : List Exchange}
      {result : Except Error α} : Trace next exchanges result →
      Trace (tell event next) exchanges result
  | answered {request : Request} {next : Response → Dialogue α} {response : Response}
      {exchanges : List Exchange} {result : Except Error α} :
      Trace (next response) exchanges result →
      Trace (send request next) (⟨request, .ok response⟩ :: exchanges) result
  | unanswered {request : Request} {next : Response → Dialogue α} {error : Error} :
      Trace (send request next) [⟨request, .error error⟩] (.error error)

/-- The requests of a run with the answers to them are a trace of the dialogue. -/
theorem trace_run (transport : Transport σ) (dialogue : Dialogue α) (state : σ) :
    Trace dialogue (transport.exchanges (dialogue.run transport state).sent state)
      (dialogue.run transport state).result := by
  induction dialogue generalizing state with
  | done result => exact .ended
  | tell event next ih => exact .told (ih state)
  | send request next ih =>
    rw [run]
    rcases h : transport request state with ⟨error | response, later⟩
    · simp only [Transport.exchanges, h]
      exact .unanswered
    · simp only [Transport.exchanges, h]
      exact .answered (ih response later)

/-- A run leaves the state behind its requests. -/
theorem state_run (transport : Transport σ) (dialogue : Dialogue α) (state : σ) :
    (dialogue.run transport state).state =
      transport.after (dialogue.run transport state).sent state := by
  induction dialogue generalizing state with
  | done result => rfl
  | tell event next ih => exact ih state
  | send request next ih =>
    rw [run]
    rcases h : transport request state with ⟨error | response, later⟩
    · simp only [Transport.after, h]
    · simp only [Transport.after, h]
      exact ih response later

variable {exchanges : List Exchange}

/-- A result without a dialogue exchanges nothing. -/
theorem Trace.done_eq {result result' : Except Error α}
    (h : Trace (done result) exchanges result') : exchanges = [] ∧ result' = result := by
  cases h
  exact ⟨rfl, rfl⟩

/-- What the user is told does not matter for what is exchanged. -/
theorem Trace.of_tell {event : Event} {next : Dialogue α} {result : Except Error α}
    (h : Trace (tell event next) exchanges result) : Trace next exchanges result := by
  cases h
  assumption

/-- Two dialogues one after the other exchange what the first does, and if that succeeds then what
the second does. -/
theorem Trace.bind_cases {first : Dialogue α} {second : α → Dialogue β} {result : Except Error β}
    (h : Trace (first >>= second) exchanges result) :
    (∃ error, Trace first exchanges (.error error) ∧ result = .error error) ∨
      ∃ a before rest, exchanges = before ++ rest ∧ Trace first before (.ok a) ∧
        Trace (second a) rest result := by
  change Trace (first.bind second) exchanges result at h
  induction first generalizing exchanges with
  | done outcome =>
    cases outcome with
    | ok a => exact .inr ⟨a, [], exchanges, rfl, .ended, h⟩
    | error error =>
      obtain ⟨rfl, rfl⟩ := h.done_eq
      exact .inl ⟨error, .ended, rfl⟩
  | tell event next ih =>
    rcases ih h.of_tell with ⟨error, hfirst, rfl⟩ | ⟨a, before, rest, rfl, hfirst, hrest⟩
    · exact .inl ⟨error, .told hfirst, rfl⟩
    · exact .inr ⟨a, before, rest, rfl, .told hfirst, hrest⟩
  | send request next ih =>
    cases h with
    | unanswered => exact .inl ⟨_, .unanswered, rfl⟩
    | answered h =>
      rcases ih _ h with ⟨error, hfirst, rfl⟩ | ⟨a, before, rest, rfl, hfirst, hrest⟩
      · exact .inl ⟨error, .answered hfirst, rfl⟩
      · exact .inr ⟨a, _ :: before, rest, rfl, .answered hfirst, hrest⟩

/-- A request is exchanged for its answer. -/
theorem Trace.ask_cases {request : Request} {result : Except Error Response}
    (h : Trace (ask request) exchanges result) : exchanges = [⟨request, result⟩] := by
  cases h with
  | unanswered => rfl
  | answered h =>
    obtain ⟨rfl, rfl⟩ := h.done_eq
    rfl

/-- A dialogue that begins by telling the user something exchanges what the rest of it does. -/
theorem Trace.of_inform {event : Event} {next : Unit → Dialogue α} {result : Except Error α}
    (h : Trace (inform event >>= next) exchanges result) : Trace (next ()) exchanges result :=
  h.of_tell

/-! ## Failures -/

/-- What a dialogue fails with of its own, whatever answers it, has a property. -/
def Raises (P : Error → Prop) : Dialogue α → Prop
  | done (.ok _) => True
  | done (.error error) => P error
  | tell _ next => next.Raises P
  | send _ next => ∀ response, (next response).Raises P

/-- Two dialogues fail with what the first fails with, or the second. -/
theorem Raises.bind {P : Error → Prop} {first : Dialogue α} {second : α → Dialogue β}
    (h : first.Raises P) (hsecond : ∀ a, (second a).Raises P) : (first >>= second).Raises P := by
  change (first.bind second).Raises P
  induction first with
  | done result =>
    cases result with
    | ok a => exact hsecond a
    | error error => exact h
  | tell event next ih => exact ih h
  | send request next ih => exact fun response => ih response (h response)

/-- A dialogue that fails does so with an answer to one of its requests, or of its own. -/
theorem Trace.error_cases {P : Error → Prop} {dialogue : Dialogue α} {error : Error}
    (h : Trace dialogue exchanges (.error error)) (hraises : dialogue.Raises P) :
    (∃ exchange ∈ exchanges, exchange.answer = .error error) ∨ P error := by
  generalize hresult : (Except.error error : Except Error α) = result at h
  induction h with
  | ended =>
    cases hresult
    exact .inr hraises
  | told _ ih => exact ih hraises hresult
  | answered _ ih =>
    rcases ih (hraises _) hresult with ⟨exchange, hmem, hanswer⟩ | hown
    · exact .inl ⟨exchange, List.mem_cons_of_mem _ hmem, hanswer⟩
    · exact .inr hown
  | unanswered =>
    cases hresult
    exact .inl ⟨_, List.mem_cons_self .., rfl⟩

end Dialogue

end Dashboards.Api
