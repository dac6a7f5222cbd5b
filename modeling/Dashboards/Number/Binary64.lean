/-!
# Binary floating-point numbers of 64 bits

A `Binary64` is the number itself and not its bit pattern: a finite one is a significand below
`2 ^ 53` times a power of two. Ratios and decimals are rounded to the nearest number, and a tie goes
to the even significand. All arithmetic is exact arithmetic on natural numbers followed by one
rounding (`Binary64.ofRatio`).
-/

namespace Dashboards

/-- A number of the binary64 format. -/
inductive Binary64 where
  /-- No number. -/
  | nan
  /-- An infinity with its sign. -/
  | infinite (negative : Bool)
  /-- The number `± significand * 2 ^ exponent`. The significand is below `2 ^ 53`, the exponent is
  at least `-1074`, and above that the significand is at least `2 ^ 52`. -/
  | finite (negative : Bool) (significand : Nat) (exponent : Int)
deriving DecidableEq, Inhabited

namespace Binary64

/-- Zero with a sign. -/
def zero (negative : Bool) : Binary64 := .finite negative 0 (-1074)

/-- The quotient rounded to the nearest integer, a half to the even neighbour. -/
def roundHalfEven (num den : Nat) : Nat :=
  let q := num / den
  let r := num % den
  if 2 * r < den then q
  else if den < 2 * r then q + 1
  else if q % 2 = 0 then q else q + 1

/-- The numerator and the denominator of `num / den / 2 ^ shift`. -/
def scaleDown (num den : Nat) (shift : Int) : Nat × Nat :=
  if 0 ≤ shift then (num, den * Nat.pow 2 shift.toNat)
  else (num * Nat.pow 2 (-shift).toNat, den)

/-- The number nearest to `± num / den`. -/
def ofRatio (negative : Bool) (num den : Nat) : Binary64 :=
  if num = 0 then zero negative
  else
    let order : Int := (num.log2 : Int) - (den.log2 : Int)
    let scaled := scaleDown num den order
    let exponent := max (-1074) (if scaled.1 < scaled.2 then order - 53 else order - 52)
    let ratio := scaleDown num den exponent
    let significand := roundHalfEven ratio.1 ratio.2
    let carried :=
      if significand = Nat.pow 2 53 then (Nat.pow 2 52, exponent + 1) else (significand, exponent)
    if 971 < carried.2 then .infinite negative else .finite negative carried.1 carried.2

/-- The number nearest to `± digits * 10 ^ exponent`. Beyond a few hundred places the outcome is
known without computing the power. -/
def ofDecimal (negative : Bool) (digits : Nat) (exponent : Int) : Binary64 :=
  if digits = 0 then zero negative
  else if 400 < exponent then .infinite negative
  else if exponent + (digits.log2 : Int) < -1200 then zero negative
  else if 0 ≤ exponent then ofRatio negative (digits * Nat.pow 10 exponent.toNat) 1
  else ofRatio negative digits (Nat.pow 10 (-exponent).toNat)

/-- Whether the number is neither an infinity nor no number. -/
def isFinite : Binary64 → Bool
  | finite .. => true
  | _ => false

/-- The magnitude of a finite number as a ratio. -/
def ratio (significand : Nat) (exponent : Int) : Nat × Nat :=
  if 0 ≤ exponent then (significand * Nat.pow 2 exponent.toNat, 1)
  else (significand, Nat.pow 2 (-exponent).toNat)

/-- The product, rounded to nearest. The factors here are finite. -/
def mul : Binary64 → Binary64 → Binary64
  | finite n m e, finite n' m' e' =>
    let r := ratio (m * m') (e + e')
    ofRatio (n != n') r.1 r.2
  | infinite n, finite n' .. | finite n .., infinite n' | infinite n, infinite n' =>
    infinite (n != n')
  | _, _ => nan

/-- The quotient, rounded to nearest, of a finite number by a finite number other than zero. -/
def div : Binary64 → Binary64 → Binary64
  | finite n m e, finite n' m' e' =>
    let r := ratio m e
    let r' := ratio m' e'
    ofRatio (n != n') (r.1 * r'.2) (r.2 * r'.1)
  | infinite n, finite n' .. => infinite (n != n')
  | _, _ => nan

/-- Equality as the format has it, zeros alike whatever their signs, except that a number that is
none is the same as another. -/
def same : Binary64 → Binary64 → Bool
  | nan, nan => true
  | infinite n, infinite n' => n == n'
  | finite n m e, finite n' m' e' => (m == 0 && m' == 0) || (n == n' && m == m' && e == e')
  | _, _ => false

end Binary64

end Dashboards
