import Dashboards.Text.PercentEncoded

/-!
# Form-encoded text

The parameters of an address are written as form data: letters, digits and the four characters
`*-._` stand for themselves, a space becomes a plus, and every other byte of the UTF-8 form is
written as a percent sign and two hexadecimal digits.
-/

namespace Dashboards.Text

/-- Whether a byte is a character that stands for itself. -/
def isFormPlain (byte : UInt8) : Bool :=
  let n := byte.toNat
  (48 ≤ n && n ≤ 57) || (65 ≤ n && n ≤ 90) || (97 ≤ n && n ≤ 122) ||
    n == 42 || n == 45 || n == 46 || n == 95

/-- A byte in form data. -/
def formByte (byte : UInt8) : List Char :=
  if isFormPlain byte then [Char.ofNat byte.toNat]
  else if byte = 32 then ['+']
  else percentByte byte

/-- A text in form data. -/
def formEncode (text : String) : String :=
  String.ofList (text.toUTF8.toList.flatMap formByte)

/-- Parameters in form data. -/
def formParameters (parameters : List (String × String)) : String :=
  String.intercalate "&" <|
    parameters.map fun (name, value) => formEncode name ++ "=" ++ formEncode value

end Dashboards.Text
