import Dashboards.Api.Dialogue
import Dashboards.Api.Listing
import Dashboards.Api.Payload

/-!
# Clients

A client looks dashboards up by title, creates them and updates them. The interface finds titles
that contain the one asked for, so only exact matches in its listing count, and more than one of
them is an error.
-/

namespace Dashboards.Api

/-- The address of the interface, unless another one is given. -/
def defaultBaseUrl : String := "https://api.newrelic.com/v2/"

/-- What a client knows. -/
structure Client where
  /-- The key that goes with every request. -/
  apiKey : String
  /-- The account of every widget. -/
  account : Nat
  /-- The root of the interface. -/
  baseUrl : String := defaultBaseUrl
deriving DecidableEq, Inhabited

namespace Client

/-- The client with another root, which gets a slash at its end. -/
def withBaseUrl (client : Client) (url : String) : Client :=
  { client with baseUrl := if url.toList.getLast? = some '/' then url else url ++ "/" }

/-- The header that carries the key. -/
def keyHeader : String := "X-Api-Key"

/-- The headers of every request. -/
def headers (client : Client) : List (String × String) :=
  [(keyHeader, client.apiKey)]

/-- The address of all dashboards. -/
def dashboardsUrl (client : Client) : String :=
  client.baseUrl ++ "dashboards.json"

/-- The address of the dashboard of a number. -/
def dashboardUrl (client : Client) (id : Nat) : String :=
  s!"{client.baseUrl}dashboards/{id}.json"

/-! ## Lookups -/

/-- Asks for the dashboards whose titles contain a title. -/
def lookupRequest (client : Client) (title : String) : Request :=
  { method := .get, url := client.dashboardsUrl, parameters := [("filter[title]", title)],
    headers := client.headers }

/-- The number of the only dashboard of exactly this title in a listing, if there is one. -/
def exactMatch (title : String) (summaries : List Summary) : Except Error (Option Nat) :=
  match summaries.filter fun summary => summary.title = title with
  | [] => .ok none
  | [summary] => .ok (some summary.id)
  | _ => .error (.api (.ambiguousTitle title))

/-- What the response to a lookup says. -/
def readLookup (title : String) (response : Response) : Except Error (Option Nat) :=
  if response.status ≠ 200 then
    .error (.api (.lookupStatus title response.status response.body))
  else
    match Listing.ofText response.body with
    | .error fault => .error (.api (.listing title fault))
    | .ok summaries => exactMatch title summaries

/-- A number that may be missing, in notes. -/
def idText : Option Nat → String
  | some id => s!"Some({id})"
  | none => "None"

/-- Looks a title up: the number of the dashboard that has exactly this title. -/
def find (client : Client) (title : String) : Dialogue (Option Nat) := do
  let response ← Dialogue.ask (client.lookupRequest title)
  let id ← Dialogue.done (readLookup title response)
  Dialogue.note .debug s!"Lookup for dashboard '{title}' returned {idText id}"
  return id

/-! ## Submissions -/

/-- What is done with a dashboard that is submitted. -/
inductive Submission where
  | create
  /-- Replaces the dashboard of this number. -/
  | update (id : Nat)
deriving DecidableEq, Inhabited

/-- What is being done, in words. -/
def Submission.gerund : Submission → String
  | create => "creating"
  | update _ => "updating"

/-- The request that submits a dashboard. -/
def submitRequest (client : Client) (submission : Submission) (dashboard : Dashboard) : Request :=
  { method := match submission with
      | .create => .post
      | .update _ => .put
    url := match submission with
      | .create => client.dashboardsUrl
      | .update id => client.dashboardUrl id
    headers := client.headers
    body := some (dashboard.payload client.account) }

/-- Whether a response accepts a submission. -/
def accepts (response : Response) : Bool :=
  response.status = 200 || response.status = 201

/-- Submits a dashboard. -/
def submit (client : Client) (submission : Submission) (dashboard : Dashboard) :
    Dialogue Unit := do
  let response ← Dialogue.ask (client.submitRequest submission dashboard)
  if accepts response then return ()
  else
    Dialogue.fail <| .api <|
      .submitStatus submission.gerund dashboard.name response.status response.body

end Client

end Dashboards.Api
