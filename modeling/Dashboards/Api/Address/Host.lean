import Dashboards.Text.PercentEncoded

/-!
# Hosts

The host of an address is a name or a number. A number of 32 bits is written as up to four parts
between dots, each in one of three bases; a number of 128 bits as eight pieces between colons, in
square brackets. Schemes that know what a host is (`Host.ofDomain?`) take every name that ends in a
number for one, so that it is no host if it is no such number; to other schemes (`Host.ofName?`) a
host is a name.
-/

namespace Dashboards.Api

/-- The host of an address. -/
inductive Host where
  | name (text : String)
  /-- A number of 32 bits. -/
  | ipv4 (number : Nat)
  /-- A number of 128 bits, as pieces of 16 bits. -/
  | ipv6 (pieces : List Nat)
deriving DecidableEq, Inhabited

namespace Host

/-- The parts of a text between the characters that satisfy a condition. -/
def parts (separates : Char → Bool) : List Char → List (List Char)
  | [] => [[]]
  | c :: rest =>
    match separates c, parts separates rest with
    | true, others => [] :: others
    | false, first :: others => (c :: first) :: others
    | false, [] => [[c]]

/-! ## Numbers of 32 bits -/

/-- The parts of a name between dots. A dot at the end has no part behind it. -/
def labels (cs : List Char) : List (List Char) :=
  match (parts (· == '.') cs).reverse with
  | [] :: others@(_ :: _) => others.reverse
  | reversed => reversed.reverse

/-- The number that a part means: hexadecimal, octal or decimal, as it begins. -/
def ipv4Part? : List Char → Option Nat
  | '0' :: x :: rest =>
    if x == 'x' || x == 'X' then if rest.isEmpty then some 0 else Text.numeral? 16 rest
    else Text.numeral? 8 (x :: rest)
  | cs => Text.numeral? 10 cs

/-- Whether a name ends in a number. -/
def endsInNumber (cs : List Char) : Bool :=
  (labels cs).getLast?.any fun last =>
    (!last.isEmpty && last.all Char.isDigit) || (ipv4Part? last).isSome

/-- The number that a name means. The parts but the last are bytes; the last one has all the bits
that are left. -/
def ipv4? (cs : List Char) : Option Nat := do
  let numbers ← (labels cs).mapM ipv4Part?
  let last ← numbers.getLast?
  let bytes := numbers.dropLast
  guard (bytes.length < 4 && bytes.all (· < 256) && last < Nat.pow 256 (4 - bytes.length))
  let high := bytes.foldl (fun n byte => 256 * n + byte) 0
  return high * Nat.pow 256 (4 - bytes.length) + last

/-- A number of 32 bits as addresses write it. -/
def ipv4Text (number : Nat) : String :=
  String.intercalate "." <|
    [3, 2, 1, 0].map fun place => toString (number / Nat.pow 256 place % 256)

/-! ## Numbers of 128 bits -/

/-- The piece that one to four hexadecimal digits mean. -/
def ipv6Piece? (cs : List Char) : Option Nat :=
  if 4 < cs.length then none else Text.numeral? 16 cs

/-- The byte that decimal digits without a superfluous zero mean. -/
def decimalByte? (cs : List Char) : Option Nat :=
  if cs.head? = some '0' && 1 < cs.length then none else (Text.numeral? 10 cs).filter (· < 256)

/-- Two pieces that are written as four bytes between dots. -/
def dottedPieces? (cs : List Char) : Option (List Nat) :=
  match (parts (· == '.') cs).mapM decimalByte? with
  | some [a, b, c, d] => some [256 * a + b, 256 * c + d]
  | _ => none

/-- The pieces that parts between colons mean. The last part may have dots if `dotted`. -/
def ipv6Pieces? (dotted : Bool) : List (List Char) → Option (List Nat)
  | [] => some []
  | [last] =>
    if dotted && last.contains '.' then dottedPieces? last
    else (ipv6Piece? last).map fun piece => [piece]
  | part :: rest => do return (← ipv6Piece? part) :: (← ipv6Pieces? dotted rest)

/-- The pieces on a side of a double colon. -/
def ipv6Side? (dotted : Bool) (cs : List Char) : Option (List Nat) :=
  if cs.isEmpty then some [] else ipv6Pieces? dotted (parts (· == ':') cs)

/-- What is before and behind the first double colon. -/
def splitDoubleColon? : List Char → Option (List Char × List Char)
  | ':' :: ':' :: rest => some ([], rest)
  | c :: rest => (splitDoubleColon? rest).map fun (before, behind) => (c :: before, behind)
  | [] => none

/-- The pieces that a text between square brackets means. A double colon stands for the zeros that
are missing, one at least. -/
def ipv6? (cs : List Char) : Option (List Nat) := do
  match splitDoubleColon? cs with
  | none =>
    let pieces ← ipv6Pieces? true (parts (· == ':') cs)
    guard (pieces.length = 8)
    return pieces
  | some (before, behind) =>
    let high ← ipv6Side? false before
    let low ← ipv6Side? true behind
    guard (high.length + low.length < 8)
    return high ++ List.replicate (8 - high.length - low.length) 0 ++ low

/-- How many zeros pieces begin with. -/
def leadingZeros (pieces : List Nat) : Nat :=
  (pieces.takeWhile (· == 0)).length

/-- The length of the longest run of zeros. -/
def longestZeros : List Nat → Nat
  | [] => 0
  | piece :: rest => max (leadingZeros (piece :: rest)) (longestZeros rest)

/-- Pieces between colons. -/
def piecesText (pieces : List Nat) : String :=
  String.intercalate ":" (pieces.map fun piece => String.ofList (Nat.toDigits 16 piece))

/-- Pieces with the first run of so many zeros written as a double colon. -/
def shortenedText (zeros : Nat) : (before rest : List Nat) → String
  | before, [] => piecesText before.reverse
  | before, piece :: rest =>
    if leadingZeros (piece :: rest) = zeros then
      piecesText before.reverse ++ "::" ++ piecesText ((piece :: rest).drop zeros)
    else shortenedText zeros (piece :: before) rest

/-- A number of 128 bits as addresses write it. Of the longest runs of zeros the first is left out,
if it is longer than one. -/
def ipv6Text (pieces : List Nat) : String :=
  let zeros := longestZeros pieces
  if 1 < zeros then shortenedText zeros [] pieces else piecesText pieces

/-! ## Names -/

/-- Whether a character may not occur in a name to schemes that do not know hosts. -/
def endsName (c : Char) : Bool :=
  c == '\x00' || c == '\t' || c == '\n' || c == '\r' || c == ' ' || c == '#' || c == '/' ||
    c == ':' || c == '<' || c == '>' || c == '?' || c == '@' || c == '[' || c == '\\' ||
    c == ']' || c == '^' || c == '|'

/-- Whether a character may not occur in a name to schemes that know hosts. -/
def endsDomain (c : Char) : Bool :=
  endsName c || c.toNat < 0x20 || c.toNat == 0x7F || c == '%'

/-- Whether a character is a control or a space. -/
def isControl (c : Char) : Bool :=
  c.toNat < 0x20 || c.toNat == 0x7F

/-- What a character stands for in a domain. The wide forms of ASCII and of the dot stand for it,
capital letters for small ones, and what only shapes the characters around it for nothing. -/
def domainChar (c : Char) : List Char :=
  let n := c.toNat
  if n == 0xAD || n == 0x200B || n == 0x2060 || n == 0xFEFF || (0xFE00 ≤ n && n ≤ 0xFE0F) then []
  else if n == 0x3002 || n == 0xFF61 then ['.']
  else if n == 0xA0 || (0x2000 ≤ n && n ≤ 0x200A) || n == 0x3000 then [' ']
  else if 0xFF01 ≤ n && n ≤ 0xFF5E then [(Char.ofNat (n - 0xFEE0)).toLower]
  else [c.toLower]

/-- A host in square brackets, or else as its scheme reads it. -/
def bracketedOr (read : List Char → Option Host) : List Char → Option Host
  | '[' :: rest =>
    if rest.getLast? = some ']' then (ipv6? rest.dropLast).map ipv6 else none
  | cs => read cs

/-- The host that a text is to schemes that know hosts. -/
def ofDomain? : List Char → Option Host := bracketedOr fun cs => do
  let text ← String.fromUTF8? ⟨(Text.percentDecode cs).toArray⟩
  let domain := text.toList.flatMap domainChar
  guard !(domain.isEmpty || domain.any endsDomain)
  if endsInNumber domain then (ipv4? domain).map ipv4 else some (name (String.ofList domain))

/-- The host that a text is to other schemes. -/
def ofName? : List Char → Option Host := bracketedOr fun cs => do
  guard !(cs.any endsName)
  return name (String.ofList (Text.percentEncode isControl cs))

/-- A host as addresses write it. -/
def text : Host → String
  | name text => text
  | ipv4 number => ipv4Text number
  | ipv6 pieces => "[" ++ ipv6Text pieces ++ "]"

end Host

end Dashboards.Api
