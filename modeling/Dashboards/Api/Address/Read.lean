import Dashboards.Api.Address.Basic

/-!
# Reading addresses

An address is read from a text by cutting it: the scheme ends at the first colon, the fragment
begins at the first number sign, the query at the first question mark before it, and the authority
ends where the path begins. Some schemes are special: they have an authority whatever the number of
slashes is, their hosts are domains, and a backslash is a slash to them. A text without a scheme is
no address.
-/

namespace Dashboards.Api.Address

/-! ## Schemes -/

/-- The port that a special scheme uses. -/
def usualPort? (scheme : String) : Option Nat :=
  if scheme = "http" ∨ scheme = "ws" then some 80
  else if scheme = "https" ∨ scheme = "wss" then some 443
  else if scheme = "ftp" then some 21
  else none

/-- Whether a scheme is special. -/
def isSpecial (scheme : String) : Bool :=
  (usualPort? scheme).isSome || scheme == "file"

/-- Whether a character may occur in a scheme. -/
def isSchemeChar (c : Char) : Bool :=
  c.isAlphanum || c == '+' || c == '-' || c == '.'

/-- The scheme of a text in small letters, and what follows its colon. -/
def splitScheme? (cs : List Char) : Option (String × List Char) :=
  let name := cs.takeWhile isSchemeChar
  match name.head?.any Char.isAlpha, cs.drop name.length with
  | true, ':' :: rest => some (String.ofList (name.map Char.toLower), rest)
  | _, _ => none

/-- Whether a character is a slash to a scheme. -/
def isSlash (special : Bool) (c : Char) : Bool :=
  c == '/' || special && c == '\\'

/-! ## Authorities -/

/-- Whether a character is written as bytes in a fragment. -/
def escapedInFragment (c : Char) : Bool :=
  Host.isControl c || c == ' ' || c == '"' || c == '<' || c == '>' || c == '\x60'

/-- Whether a character is written as bytes in a path. -/
def escapedInPath (c : Char) : Bool :=
  escapedInFragment c || c == '#' || c == '?' || c == '^' || c == '\x7b' || c == '\x7d'

/-- Whether a character is written as bytes in the name or the password of a user. -/
def escapedInUser (c : Char) : Bool :=
  escapedInPath c || c == '/' || c == ':' || c == ';' || c == '=' || c == '@' || c == '[' ||
    c == '\\' || c == ']' || c == '|'

/-- Whether a character is written as bytes in a query. -/
def escapedInQuery (special : Bool) (c : Char) : Bool :=
  Host.isControl c || c == ' ' || c == '"' || c == '#' || c == '<' || c == '>' ||
    special && c == '\x27'

/-- A part of an address with some characters written as bytes. -/
def encoded (escaped : Char → Bool) (cs : List Char) : String :=
  String.ofList (Text.percentEncode escaped cs)

/-- What is before the last at sign of an authority, if there is one, and what is behind it. -/
def splitUser (cs : List Char) : Option (List Char) × List Char :=
  let behind := (cs.reverse.takeWhile (· != '@')).reverse
  if behind.length = cs.length then (none, cs)
  else (some (cs.take (cs.length - behind.length - 1)), behind)

/-- The host of an authority, up to the first colon outside square brackets, and what is behind that
colon, if it is there. -/
def splitPort : (bracketed : Bool) → List Char → List Char × Option (List Char)
  | _, [] => ([], none)
  | bracketed, c :: rest =>
    if c == ':' && !bracketed then ([], some rest)
    else
      let (host, port) := splitPort (c == '[' || bracketed && c != ']') rest
      (c :: host, port)

/-- The port that digits mean, left out if it is the usual one. No digits mean no port. -/
def readPort? (scheme : String) (digits : List Char) : Option (Option Nat) :=
  if digits.isEmpty then some none
  else do
    let port ← Text.numeral? 10 digits
    guard (port < 65536)
    return if usualPort? scheme = some port then none else some port

/-- The authority that a text is. Nothing goes with an empty host. -/
def readAuthority? (scheme : String) (cs : List Char) : Option Authority := do
  let (user, rest) := splitUser cs
  let (hostText, portText) := splitPort false rest
  let host ← if isSpecial scheme then Host.ofDomain? hostText else Host.ofName? hostText
  guard (host ≠ .name "" || user.isNone && portText.isNone)
  let userText := user.getD []
  let name := userText.takeWhile (· != ':')
  return {
    user := encoded escapedInUser name
    password := encoded escapedInUser (userText.drop (name.length + 1))
    host
    port := ← readPort? scheme (portText.getD []) }

/-- The authority of an address of a file, which is a host and may be missing. -/
def readFileAuthority? (cs : List Char) : Option Authority := do
  let host ← if cs.isEmpty then some (.name "") else Host.ofDomain? cs
  return { host := if host = .name "localhost" then .name "" else host }

/-! ## Paths -/

/-- A segment with the escaped dots written as dots. -/
def plainDots : List Char → List Char
  | '%' :: '2' :: c :: rest =>
    if c == 'e' || c == 'E' then '.' :: plainDots rest else '%' :: plainDots ('2' :: c :: rest)
  | c :: rest => c :: plainDots rest
  | [] => []

/-- The segments of a path behind those before them, last one first. A single dot stands for no
segment and two dots take the one before them away; at the end of a path both leave an empty
segment. -/
def readSegments (reversed : List String) : List (List Char) → List String
  | [] => reversed.reverse
  | segment :: rest =>
    let ending := if rest.isEmpty then [""] else []
    match plainDots segment with
    | ['.'] => readSegments (ending ++ reversed) rest
    | ['.', '.'] => readSegments (ending ++ reversed.tail) rest
    | _ => readSegments (encoded escapedInPath segment :: reversed) rest

/-- The path that a text is, given whether it is behind an authority. -/
def readPath (special behindAuthority : Bool) (cs : List Char) : Path :=
  let slash := cs.head?.any (isSlash special)
  if special || slash then
    .segments (readSegments [] (Host.parts (isSlash special) (if slash then cs.tail else cs)))
  else if behindAuthority then .segments []
  else .whole (encoded Host.isControl cs)

/-! ## Addresses -/

/-- The text without what is not part of an address: controls and spaces around it, and tabs and
line breaks anywhere. -/
def trimmed (cs : List Char) : List Char :=
  let isAround (c : Char) : Bool := c.toNat ≤ 0x20
  let cs := ((cs.dropWhile isAround).reverse.dropWhile isAround).reverse
  cs.filter fun c => c != '\t' && c != '\n' && c != '\r'

/-- What is before a character, and what is behind it if it is there. -/
def splitAtChar (mark : Char) (cs : List Char) : List Char × Option (List Char) :=
  let before := cs.takeWhile (· != mark)
  (before, if before.length = cs.length then none else some (cs.drop (before.length + 1)))

/-- The authority of an address, if it has one, and the text of its path. -/
def readBeforePath? (scheme : String) (cs : List Char) : Option (Option Authority × List Char) :=
  let special := isSpecial scheme
  let slashes := cs.takeWhile (isSlash special)
  let isName (c : Char) : Bool := !isSlash special c
  if scheme == "file" then
    if slashes.length < 2 then some (some { host := .name "" }, cs)
    else
      let rest := cs.drop 2
      (readFileAuthority? (rest.takeWhile isName)).map fun authority =>
        (some authority, rest.dropWhile isName)
  else if special || 2 ≤ slashes.length then
    let rest := if special then cs.drop slashes.length else cs.drop 2
    (readAuthority? scheme (rest.takeWhile isName)).map fun authority =>
      (some authority, rest.dropWhile isName)
  else some (none, cs)

/-- The address that a text is. -/
def ofText? (text : String) : Option Address := do
  let (scheme, rest) ← splitScheme? (trimmed text.toList)
  let (rest, fragment) := splitAtChar '#' rest
  let (rest, query) := splitAtChar '?' rest
  let (authority, path) ← readBeforePath? scheme rest
  let special := isSpecial scheme
  return {
    scheme
    authority
    path := readPath special authority.isSome path
    query := query.map (encoded (escapedInQuery special))
    fragment := fragment.map (encoded escapedInFragment) }

end Dashboards.Api.Address
