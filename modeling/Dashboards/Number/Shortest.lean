import Dashboards.Number.Binary64

/-!
# The shortest decimal of a number

Of all decimals that are read back as a given number, `Shortest.decimal` picks one with the fewest
digits and, among those, the nearest to the number, a tie going to the even last digit. It looks at
the grids of decimals with 1, 2, … 17 significant digits in turn. On each it tests the two
neighbours of the number in exact arithmetic, since a grid that has any point in the interval of the
ratios rounding to the number has one of the two neighbours in it.
-/

namespace Dashboards

/-- A decimal: the number `digits * 10 ^ exponent`. -/
structure Decimal where
  /-- The digits, read as one integer. -/
  digits : Nat
  /-- The power of ten of the last digit. -/
  exponent : Int
deriving DecidableEq, Inhabited

namespace Shortest

/-- The numerator and the denominator of `num / den / 10 ^ shift`. -/
def scaleTen (num den : Nat) (shift : Int) : Nat × Nat :=
  if 0 ≤ shift then (num, den * Nat.pow 10 shift.toNat)
  else (num * Nat.pow 10 (-shift).toNat, den)

/-- The greatest power of ten that is at most `num / den`, for a positive ratio: an estimate by the
binary logarithm, which is off by at most one, set right. -/
def order (num den : Nat) : Int :=
  let estimate := (((num.log2 : Int) - (den.log2 : Int)) * 30103).fdiv 100000
  let fits (power : Int) : Bool :=
    let r := scaleTen num den power
    r.2 ≤ r.1
  if fits (estimate + 1) then estimate + 1
  else if fits estimate then estimate
  else estimate - 1

/-- The ends of the interval of ratios that round to `significand * 2 ^ exponent`, in units of
`2 ^ (exponent - 2)`. Below a power of two the neighbour is at half the distance. -/
def interval (significand : Nat) (exponent : Int) : Nat × Nat :=
  let isPower := significand = Nat.pow 2 52 ∧ -1074 < exponent
  (if isPower then 4 * significand - 1 else 4 * significand - 2, 4 * significand + 2)

/-- Whether `point * 10 ^ power` rounds to `significand * 2 ^ exponent`. The ends of the interval
belong to it if the significand is even. -/
def readsBack (significand : Nat) (exponent : Int) (point : Nat) (power : Int) : Bool :=
  let ends := interval significand exponent
  let value := scaleTen point 1 (-power)
  let scaled := Binary64.scaleDown value.1 value.2 (exponent - 2)
  if significand % 2 = 0 then ends.1 * scaled.2 ≤ scaled.1 && scaled.1 ≤ ends.2 * scaled.2
  else ends.1 * scaled.2 < scaled.1 && scaled.1 < ends.2 * scaled.2

/-- The point of the grid of multiples of `10 ^ power` that is nearest to the number among those
that are read back as it, if there is one. -/
def onGrid? (significand : Nat) (exponent : Int) (power : Int) : Option Nat :=
  let value := Binary64.ratio significand exponent
  let scaled := scaleTen value.1 value.2 power
  let below := scaled.1 / scaled.2
  let rest := scaled.1 % scaled.2
  match readsBack significand exponent below power,
      readsBack significand exponent (below + 1) power with
  | true, true =>
    if 2 * rest < scaled.2 then some below
    else if scaled.2 < 2 * rest then some (below + 1)
    else if below % 2 = 0 then some below else some (below + 1)
  | true, false => some below
  | false, true => some (below + 1)
  | false, false => none

/-- The first grid with a point that is read back, beginning at a number of digits. -/
def search (significand : Nat) (exponent : Int) (top : Int) : (tries count : Nat) → Decimal
  | 0, count => ⟨0, top - count⟩
  | tries + 1, count =>
    let power := top - count
    match onGrid? significand exponent power with
    | some point => ⟨point, power⟩
    | none => search significand exponent top tries (count + 1)

/-- Moves factors of ten from the digits to the exponent, up to a number of times. -/
def strip : Nat → Decimal → Decimal
  | 0, d => d
  | n + 1, d =>
    if d.digits % 10 = 0 ∧ d.digits ≠ 0 then strip n ⟨d.digits / 10, d.exponent + 1⟩ else d

/-- The shortest decimal that is read back as `significand * 2 ^ exponent`, for a positive
significand. -/
def decimal (significand : Nat) (exponent : Int) : Decimal :=
  let value := Binary64.ratio significand exponent
  strip 20 (search significand exponent (order value.1 value.2) 18 0)

end Shortest

end Dashboards
