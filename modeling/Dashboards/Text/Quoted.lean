import Dashboards.Text.Numbered

/-!
# Quoted text

Messages show a text they quote between double quotes. Tab, carriage return, line feed, the quote
itself, the backslash and the null character have short escapes; the other characters that
`isNumbered` names are written by their number in hexadecimal; all else stands for itself.
-/

namespace Dashboards.Text

/-- How one character is written inside a quoted text. -/
def quoteChar (c : Char) : List Char :=
  match c with
  | '\t' => ['\\', 't']
  | '\r' => ['\\', 'r']
  | '\n' => ['\\', 'n']
  | '"' => ['\\', '"']
  | '\\' => ['\\', '\\']
  | '\x00' => ['\\', '0']
  | c =>
    if isNumbered c then '\\' :: 'u' :: '\x7b' :: (Nat.toDigits 16 c.toNat ++ ['\x7d']) else [c]

/-- A text between double quotes, with escapes. -/
def quote (text : String) : String :=
  String.ofList ('"' :: (text.toList.flatMap quoteChar ++ ['"']))

end Dashboards.Text
