import Dashboards.Api.Address.Read
import Dashboards.Api.Dialogue
import Dashboards.Text.Blank

/-!
# Requests on the wire

A request goes out as a request line, headers and a body. It can be sent only if its address is one
of the web and its headers hold no control characters; otherwise it fails before anything is sent
(`Request.address`).
-/

namespace Dashboards.Api

/-- What a server sees of a request. -/
structure Message where
  /-- The request line. -/
  line : String
  key : Option String
  contentType : Option String
  body : String
deriving DecidableEq, Inhabited

/-- Whether a text may be the value of a header. -/
def isHeaderValue (text : String) : Bool :=
  text.toList.all fun c => c == '\t' || (0x20 ≤ c.toNat && c.toNat != 0x7F)

/-- The value of a header of a request, as a server reads it. -/
def Message.headerValue? (request : Request) (name : String) : Option String :=
  (request.headers.lookup name).map Text.trim

/-- Whether a request may name a host. Quotation marks and braces are too much for it. -/
def Host.isNamable (host : Host) : Bool :=
  host.text.toList.all fun c => c != '"' && c != '\x60' && c != '\x7b' && c != '\x7d'

/-- Whether requests can be sent to an address: its scheme is one of the web, and a request may name
its host. -/
def Address.isReachable (address : Address) : Bool :=
  (address.scheme == "http" || address.scheme == "https") &&
    address.authority.any (·.host.isNamable)

/-- The address that a request goes to, with its parameters. It fails without an address if there is
none or if a header is wrong, and else names the address. -/
def Request.address (request : Request) : Except ApiFault Address :=
  match Address.ofText? request.url with
  | none => .error .unsendable
  | some address =>
    if !address.hasHost then .error (.unsendableTo address.text)
    else if !request.headers.all fun (_, value) => isHeaderValue value then .error .unsendable
    else
      let address := address.withoutUser.withParameters request.parameters
      if address.isReachable then .ok address else .error (.unsendableTo address.text)

/-- The message that a request to an address goes out as. -/
def Message.ofRequest (request : Request) (address : Address) : Message where
  line := s!"{request.method.name} {address.target} HTTP/1.1"
  key := headerValue? request "X-Api-Key"
  contentType := request.body.map fun _ => "application/json"
  body := (request.body.map Json.compact).getD ""

/-- A text without the byte order mark before it. -/
def withoutByteOrderMark (text : String) : String :=
  match text.toList with
  | '\ufeff' :: rest => String.ofList rest
  | _ => text

/-- The response as a client gets it. Some statuses come without a body. -/
def Response.received (response : Response) : Response :=
  let hasBody := response.status ≠ 204 ∧ response.status ≠ 304
  { response with body := if hasBody then withoutByteOrderMark response.body else "" }

/-- A server with prepared responses. -/
structure Server where
  responses : List Response
  /-- The messages that it got, in order. -/
  received : List Message := []
deriving Inhabited

/-- Sends requests to a server, which answers each by its next response. -/
def Transport.server : Transport Server := fun request server =>
  match request.address with
  | .error fault => (.error (.api fault), server)
  | .ok address =>
    match server.responses with
    | response :: rest =>
      (.ok response.received, ⟨rest, server.received ++ [Message.ofRequest request address]⟩)
    | [] => (.error (.api (.unreachable address.text)), server)

end Dashboards.Api
