/-!
# Digits

The digits of bases up to sixteen and the numbers that they make. Small and capital letters are read
alike.
-/

namespace Dashboards.Text

/-- The value of a hexadecimal digit. -/
def hexDigit? (c : Char) : Option Nat :=
  if '0' ≤ c ∧ c ≤ '9' then some (c.toNat - 48)
  else if 'a' ≤ c ∧ c ≤ 'f' then some (c.toNat - 87)
  else if 'A' ≤ c ∧ c ≤ 'F' then some (c.toNat - 55)
  else none

/-- The value of a digit in a base up to sixteen. -/
def digit? (base : Nat) (c : Char) : Option Nat :=
  (hexDigit? c).filter (· < base)

/-- The number that digits make in a base. At least one digit is there. -/
def numeral? (base : Nat) (cs : List Char) : Option Nat :=
  if cs.isEmpty then none
  else cs.foldlM (fun n c => (digit? base c).map (base * n + ·)) 0

/-- A hexadecimal digit with capital letters. -/
def hexCapital (n : Nat) : Char :=
  Char.ofNat (if n < 10 then 48 + n else 55 + n)

end Dashboards.Text
