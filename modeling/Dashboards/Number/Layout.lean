import Dashboards.Number.Shortest

/-!
# Layouts of numbers

A layout decides how the digits of a number are set out: where positional writing ends and powers of
ten begin, whether a positive power carries a sign, and the words for what is not a finite number.
There are three: the one of documents, the one of messages, and the one of the interface.
-/

namespace Dashboards

/-- The decisions of a number format. -/
structure NumberLayout where
  /-- The places of the decimal point, counted from before the first digit, at which a number is
  written positionally, ends included; `none` means everywhere. -/
  positional : Option (Int × Int)
  /-- Whether a positive power of ten is written with a plus sign. -/
  plus : Bool
  /-- The word for no number. -/
  nan : String
  /-- The word for infinity. -/
  infinity : String

namespace NumberLayout

/-- The layout of numbers in documents. -/
def document : NumberLayout := ⟨some (-4, 16), false, ".nan", ".inf"⟩

/-- The layout of numbers in messages about documents. -/
def message : NumberLayout := ⟨none, false, "NaN", "inf"⟩

/-- The layout of numbers in messages about answers of the interface. -/
def answer : NumberLayout := ⟨some (-4, 16), true, "NaN", "inf"⟩

/-- The digits with the decimal point at a place, and at least one digit on either side. -/
def setPoint (digits : List Char) (point : Int) : List Char :=
  if point ≤ 0 then '0' :: '.' :: (List.replicate (-point).toNat '0' ++ digits)
  else if (digits.length : Int) ≤ point then
    digits ++ List.replicate (point.toNat - digits.length) '0' ++ ['.', '0']
  else digits.take point.toNat ++ '.' :: digits.drop point.toNat

/-- The digits with the point after the first one, and a power of ten. -/
def setPower (plus : Bool) (digits : List Char) (power : Int) : List Char :=
  let sign := if power < 0 then ['-'] else if plus then ['+'] else []
  let fraction := match digits.drop 1 with
    | [] => []
    | rest => '.' :: rest
  digits.take 1 ++ fraction ++ 'e' :: (sign ++ Nat.toDigits 10 power.natAbs)

/-- A decimal in a layout. -/
def decimal (layout : NumberLayout) (d : Decimal) : List Char :=
  let digits := Nat.toDigits 10 d.digits
  let point := (digits.length : Int) + d.exponent
  match layout.positional with
  | none => setPoint digits point
  | some (low, high) =>
    if low ≤ point ∧ point ≤ high then setPoint digits point
    else setPower layout.plus digits (point - 1)

/-- The text of a number in a layout. -/
def render (layout : NumberLayout) : Binary64 → String
  | .nan => layout.nan
  | .infinite negative => (if negative then "-" else "") ++ layout.infinity
  | .finite negative significand exponent =>
    let digits :=
      if significand = 0 then ['0', '.', '0']
      else layout.decimal (Shortest.decimal significand exponent)
    String.ofList (if negative then '-' :: digits else digits)

end NumberLayout

end Dashboards
