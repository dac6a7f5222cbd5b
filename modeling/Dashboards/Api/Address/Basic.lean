import Dashboards.Api.Address.Host
import Dashboards.Text.FormEncoded

/-!
# Addresses

The address of what a request is about: a scheme, an authority with a host, a path, a query and a
fragment, as the common standard for such addresses has them. `Address.text` writes an address.
-/

namespace Dashboards.Api

/-- Who is asked: the host, perhaps with a port that is not the usual one of the scheme. -/
structure Authority where
  /-- The name and the password of a user, percent-encoded. -/
  user : String := ""
  password : String := ""
  host : Host
  port : Option Nat := none
deriving DecidableEq, Inhabited

namespace Authority

/-- The user and the password with the sign behind them, if one of them is given. -/
def userText (authority : Authority) : String :=
  if authority.user.isEmpty && authority.password.isEmpty then ""
  else
    authority.user ++ (if authority.password.isEmpty then "" else ":" ++ authority.password) ++ "@"

/-- An authority as addresses write it. -/
def text (authority : Authority) : String :=
  authority.userText ++ authority.host.text ++ match authority.port with
    | some port => s!":{port}"
    | none => ""

end Authority

namespace Address

/-- The path of an address. -/
inductive Path where
  /-- A text without structure. -/
  | whole (text : String)
  /-- Segments, each with a slash before it. -/
  | segments (list : List String)
deriving DecidableEq, Inhabited

/-- A path as addresses write it. -/
def Path.text : Path → String
  | whole text => text
  | segments list => String.join (list.map ("/" ++ ·))

end Address

/-- An address. All of its parts are percent-encoded where they have to be. -/
structure Address where
  scheme : String
  authority : Option Authority
  path : Address.Path
  query : Option String
  fragment : Option String
deriving DecidableEq, Inhabited

namespace Address

/-- What marks that two slashes at the beginning of a path do not begin an authority. -/
def pathMark (address : Address) : String :=
  match address.authority, address.path with
  | none, .segments ("" :: _ :: _) => "/."
  | _, _ => ""

/-- An optional part of an address behind its mark. -/
def partText (mark : String) : Option String → String
  | some text => mark ++ text
  | none => ""

/-- What a server is asked for: the path and the query. -/
def target (address : Address) : String :=
  address.path.text ++ partText "?" address.query

/-- An address as a text. -/
def text (address : Address) : String :=
  address.scheme ++ ":" ++ partText "//" (address.authority.map (·.text)) ++ address.pathMark ++
    address.target ++ partText "#" address.fragment

/-- Whether an address has a host. -/
def hasHost (address : Address) : Bool :=
  address.authority.any (·.host ≠ .name "")

/-- The address without the user and the password. -/
def withoutUser (address : Address) : Address :=
  { address with
    authority := address.authority.map fun authority =>
      { authority with user := "", password := "" } }

/-- The address with parameters behind its query. An empty query does not stay if there are none. -/
def withParameters (address : Address) (parameters : List (String × String)) : Address :=
  let query := match address.query with
    | none | some "" =>
      if parameters.isEmpty then none else some (Text.formParameters parameters)
    | some query =>
      some (if parameters.isEmpty then query else query ++ "&" ++ Text.formParameters parameters)
  { address with query }

end Address

end Dashboards.Api
