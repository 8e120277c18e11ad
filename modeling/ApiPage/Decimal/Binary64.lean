/-!
# Binary floating point

The finite numbers of the binary interchange format of 64 bits, with the two infinities. A number is
held as an exact product `m · 2 ^ e`, so that reading and writing it is arithmetic on naturals.

## Conventions

Rounding is to nearest, a half going to the even neighbour. A ratio that is too large for the format
rounds to infinity.
-/

namespace ApiPage.Decimal

/-- `num / den` rounded to the nearest natural number, a half to the even neighbour. -/
def roundDiv (num den : Nat) : Nat :=
  let q := num / den
  let r := num % den
  if 2 * r < den then q
  else if den < 2 * r then q + 1
  else q + q % 2

/-- The least `k` with `n < 2 ^ k`. -/
def bitLength (n : Nat) : Nat := if n = 0 then 0 else Nat.log2 n + 1

/-- **Binary64**: `finite neg m e` is `m · 2 ^ e`, or its negative. The builders below keep
`m < 2 ^ 53` and `-1074 ≤ e`, and `2 ^ 52 ≤ m` unless `e = -1074`. -/
inductive Binary64
  | finite (neg : Bool) (m : Nat) (e : Int)
  | infinite (neg : Bool)
  deriving DecidableEq, Inhabited

namespace Binary64

/-- Positive zero. -/
def zero : Binary64 := finite false 0 (-1074)

/-- The pair of naturals whose ratio is `num / den / 2 ^ e`. -/
def scaled (num den : Nat) (e : Int) : Nat × Nat :=
  if e < 0 then (num * Nat.pow 2 e.natAbs, den) else (num, den * Nat.pow 2 e.natAbs)

/-- The exponent at which `num / den` has 53 bits before the point, or the least of the format. -/
def exponentFor (num den : Nat) : Int :=
  let e : Int := bitLength num - bitLength den - 53
  let (a, b) := scaled num den e
  let e := if b * Nat.pow 2 53 ≤ a then e + 1 else e
  max e (-1074)

/-- **Rounding**: the number of the format nearest to `num / den`. -/
def ofRatio (neg : Bool) (num den : Nat) : Binary64 :=
  if num = 0 then finite neg 0 (-1074)
  else
    let e := exponentFor num den
    let (a, b) := scaled num den e
    let m := roundDiv a b
    let (m, e) := if m = Nat.pow 2 53 then (Nat.pow 2 52, e + 1) else (m, e)
    if 971 < e then infinite neg else finite neg m e

/-- The number nearest to `digits · 10 ^ exp`, where `digits` has `count` digits. Magnitudes far
outside the format are settled by their count of digits alone. -/
def ofDecimal (neg : Bool) (digits count : Nat) (exp : Int) : Binary64 :=
  if digits = 0 then finite neg 0 (-1074)
  else if 400 < exp + count then infinite neg
  else if exp + count < -400 then finite neg 0 (-1074)
  else if exp < 0 then ofRatio neg digits (Nat.pow 10 exp.natAbs)
  else ofRatio neg (digits * Nat.pow 10 exp.natAbs) 1

/-- The number nearest to an integer. -/
def ofInt (i : Int) : Binary64 := ofRatio (i < 0) i.natAbs 1

/-- The sign bit. -/
def isNeg : Binary64 → Bool
  | finite neg _ _ => neg
  | infinite neg => neg

/-- The number is zero, of either sign. -/
def isZero : Binary64 → Bool
  | finite _ m _ => m == 0
  | infinite _ => false

/-- Numerator and denominator of the magnitude of a finite number. -/
def ratio (m : Nat) (e : Int) : Nat × Nat :=
  if e < 0 then (m, Nat.pow 2 e.natAbs) else (m * Nat.pow 2 e.natAbs, 1)

/-- The integer part, toward zero, of a finite number. -/
def truncate (neg : Bool) (m : Nat) (e : Int) : Int :=
  let (a, b) := ratio m e
  if neg then -(a / b : Nat) else (a / b : Nat)

end Binary64
end ApiPage.Decimal
