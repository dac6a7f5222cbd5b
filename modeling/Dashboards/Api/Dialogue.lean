import Dashboards.Error
import Dashboards.Json.Basic
import Dashboards.Traced

/-!
# Dialogues with the interface

A client is described by its dialogue: a tree that says which request is sent next, depending on the
responses so far, and what the user is told meanwhile. Something that answers requests
(`Transport`) turns a dialogue into a run. A request that is not answered ends the run with the
failure.
-/

namespace Dashboards.Api

/-- What is done with what is at an address. -/
inductive Method where
  | get | post | put
deriving DecidableEq, Inhabited

/-- The name of a method. -/
def Method.name : Method → String
  | get => "GET"
  | post => "POST"
  | put => "PUT"

/-- A request. The address comes without the parameters. -/
structure Request where
  method : Method
  url : String
  parameters : List (String × String) := []
  headers : List (String × String)
  body : Option Json := none
deriving Inhabited

/-- A response. -/
structure Response where
  status : Nat
  body : String
deriving DecidableEq, Inhabited

/-- What the user is told during a dialogue. -/
inductive Event where
  | note (note : Note)
  /-- What is going on. -/
  | progress (text : String)
  /-- All is done. -/
  | finished (text : String)
deriving DecidableEq

/-- What a client does until it has a result. -/
inductive Dialogue (α : Type) where
  | done (result : Except Error α)
  | tell (event : Event) (next : Dialogue α)
  | send (request : Request) (next : Response → Dialogue α)

namespace Dialogue

variable {α β σ : Type}

/-- One dialogue after the other, unless the first fails. -/
def bind : Dialogue α → (α → Dialogue β) → Dialogue β
  | done (.ok a), f => f a
  | done (.error e), _ => done (.error e)
  | tell event next, f => tell event (bind next f)
  | send request next, f => send request fun response => bind (next response) f

instance : Monad Dialogue where
  pure a := done (.ok a)
  bind := bind

/-- Fails. -/
def fail (error : Error) : Dialogue α := done (.error error)

/-- Tells the user something. -/
def inform (event : Event) : Dialogue Unit := tell event (pure ())

/-- Notes what happened. -/
def note (level : Note.Level) (text : String) : Dialogue Unit := inform (.note ⟨level, text⟩)

/-- Sends a request and waits for the response. -/
def ask (request : Request) : Dialogue Response := send request pure

end Dialogue

/-- What answers requests: from its state and a request, a response or a failure, and the new
state. -/
def Transport (σ : Type) : Type := Request → σ → Except Error Response × σ

/-- A dialogue that has taken place. -/
structure Run (σ α : Type) where
  /-- The requests, in the order in which they were sent. -/
  sent : List Request
  /-- What the user was told, in order. -/
  events : List Event
  result : Except Error α
  /-- The state that is left. -/
  state : σ

/-- The run of a dialogue. -/
def Dialogue.run {α σ : Type} (transport : Transport σ) : Dialogue α → σ → Run σ α
  | done result, state => ⟨[], [], result, state⟩
  | tell event next, state =>
    let run := next.run transport state
    { run with events := event :: run.events }
  | send request next, state =>
    match transport request state with
    | (.ok response, state) =>
      let run := (next response).run transport state
      { run with sent := request :: run.sent }
    | (.error error, state) => ⟨[request], [], .error error, state⟩

namespace Run

variable {α σ : Type}

/-- The notes of a run. -/
def notes (run : Run σ α) : List Note :=
  run.events.filterMap fun
    | .note note => some note
    | _ => none

/-- What the user last heard of the progress. -/
def progress (run : Run σ α) : String :=
  run.events.foldl
    (fun last event => match event with
      | .note _ => last
      | .progress text | .finished text => text) ""

/-- Whether the user was told that all is done. -/
def isFinished (run : Run σ α) : Bool :=
  run.events.any fun
    | .finished _ => true
    | _ => false

end Run

/-! ## Prepared answers -/

/-- A prepared answer. -/
inductive Reply where
  | response (response : Response)
  /-- No response, for a reason. -/
  | failure (reason : String)
deriving DecidableEq, Inhabited

/-- Answers each request by the next prepared answer, and fails when none is left. -/
def Transport.prepared : Transport (List Reply)
  | _, .response response :: rest => (.ok response, rest)
  | _, .failure reason :: rest => (.error (.stated .api reason), rest)
  | _, [] => (.error (.stated .api "no response queued"), [])

end Dashboards.Api
