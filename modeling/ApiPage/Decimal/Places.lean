import ApiPage.Decimal.Shortest

/-!
# Decimals of a chosen precision

A binary number with a fixed count of decimal places, in scientific notation with a fixed count, or
in whichever of the two is shorter. The exact value is rounded once, a half to the even neighbour.
-/

namespace ApiPage.Decimal

/-- `n` as digits with a point before the last `places` of them. `point` keeps a point that no digit
follows. -/
def withPoint (point : Bool) (places n : Nat) : Text :=
  let ds := Text.padNat (places + 1) n
  let k := ds.length - places
  ds.take k ++ (if places = 0 then (if point then ['.'] else []) else '.' :: ds.drop k)

/-- **Fixed places** of the magnitude `a / b`. -/
def fixedPlaces (point : Bool) (places a b : Nat) : Text :=
  withPoint point places (roundDiv (a * Nat.pow 10 places) b)

/-- `a / b` rounded to `count + 1` digits: the digits as a number and the exponent of the first. -/
def scientificDigits (count a b : Nat) : Nat × Int :=
  if a = 0 then (0, 0)
  else
    let x := decimalExponent a b - 1
    let (c, d) := inUnits a b (x - count)
    let n := roundDiv c d
    if n = Nat.pow 10 (count + 1) then (Nat.pow 10 count, x + 1) else (n, x)

/-- **Scientific notation** of the magnitude `a / b` with `places` digits after the point. -/
def scientificPlaces (point : Bool) (places a b : Nat) : Text :=
  let (n, x) := scientificDigits places a b
  withPoint point places n ++ exponentText x

/-- The text without the zeros that end its fraction, and without a point that then ends it. -/
def dropFractionZeros (t : Text) : Text :=
  if t.contains '.' then Text.dropEnd (· == '.') (Text.dropEnd (· == '0') t) else t

/-- **General notation** of the magnitude `a / b` with `digits` significant digits: scientific if
the exponent is below `-4` or not below `digits`. Zeros that end the fraction are kept only with a
point that must stand. -/
def generalPlaces (point : Bool) (digits a b : Nat) : Text :=
  let digits := max digits 1
  let (n, x) := scientificDigits (digits - 1) a b
  let trim := if point then id else dropFractionZeros
  if x < -4 || digits ≤ x then trim (withPoint point (digits - 1) n) ++ exponentText x
  else trim (fixedPlaces point (digits - 1 - x).natAbs a b)

end ApiPage.Decimal
