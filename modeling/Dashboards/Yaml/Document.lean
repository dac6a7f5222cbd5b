import Dashboards.Yaml.Node.Read

/-!
# Documents from text

A text is cut into tokens and built into a tree. It is taken in blocks of some thousand bytes, and a
control character in a block keeps the reader from all of it: what stands before the block is read
as usual, and the first token that goes on into it is not.
-/

namespace Dashboards.Yaml

/-- Whether a character may occur in a document. -/
def isAllowed (c : Char) : Bool :=
  let n := c.toNat
  n == 9 || n == 0xA || n == 0xD || (0x20 ≤ n && n ≤ 0x7E) || n == 0x85 ||
    (0xA0 ≤ n && n ≤ 0xFFFD) || 0x10000 ≤ n

/-- How many bytes a block of a text may take. It holds whole characters only. -/
def blockSize : Nat := 16384

/-- The barrier before the first block with a character that may not occur, if there is one, given
the offsets at which the present block starts and the text goes on. -/
def controlBarrier? : List Char → (start here : Nat) → Option Barrier
  | [], _, _ => none
  | c :: rest, start, here =>
    let next := here + c.utf8Size
    let start := if start + blockSize < next then here else start
    if isAllowed c then controlBarrier? rest start next else some ⟨start, .control here⟩

namespace Document

/-- The first document of a text. -/
def ofChars (text : List Char) : Document :=
  ofTokens (TokenStream.ofChars text (controlBarrier? text 0 0))

/-- The first document of a text. -/
def ofText (text : String) : Document :=
  ofChars text.toList

end Document

end Dashboards.Yaml
