import Dashboards.Text.Digits

/-!
# Percent-encoded text

A text may write a byte of its UTF-8 form as a percent sign and two hexadecimal digits. Which
characters are written so depends on the place; those outside ASCII always are.
-/

namespace Dashboards.Text

/-- A byte as a percent sign and two digits. -/
def percentByte (byte : UInt8) : List Char :=
  ['%', hexCapital (byte.toNat / 16), hexCapital (byte.toNat % 16)]

/-- The bytes of a character. -/
def charBytes (c : Char) : List UInt8 :=
  (String.singleton c).toUTF8.toList

/-- A text in which the characters that satisfy a condition are written as bytes. -/
def percentEncode (escaped : Char → Bool) (cs : List Char) : List Char :=
  cs.flatMap fun c =>
    if escaped c || 0x7F < c.toNat then (charBytes c).flatMap percentByte else [c]

/-- The bytes of a text that writes some of them by number. A percent sign without two digits
behind it stands for itself. -/
def percentDecode : List Char → List UInt8
  | '%' :: a :: b :: rest =>
    match hexDigit? a, hexDigit? b with
    | some x, some y => UInt8.ofNat (16 * x + y) :: percentDecode rest
    | _, _ => charBytes '%' ++ percentDecode (a :: b :: rest)
  | c :: rest => charBytes c ++ percentDecode rest
  | [] => []

end Dashboards.Text
