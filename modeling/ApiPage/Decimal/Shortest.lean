import ApiPage.Decimal.Binary64
import ApiPage.Text.Basic

/-!
# Shortest decimal digits

The digits a finite binary number is written with: of all decimals that round to it, one with the
fewest digits, and of those the nearest. For each count of digits it is enough to look at the two
neighbours of the number on the decimal grid of that count.

The text of a number is a second step: `FloatStyle` says where positional notation ends and what a
whole number shows.
-/

namespace ApiPage.Decimal

/-- The exponent `p` with `10 ^ (p - 1) ≤ num / den < 10 ^ p`, sought upward from `p`. -/
def decimalExponentFrom (num den : Nat) : Nat → Int → Int
  | 0, p => p
  | fuel + 1, p =>
    let below := if p < 0 then num * Nat.pow 10 p.natAbs < den else num < den * Nat.pow 10 p.natAbs
    if below then p else decimalExponentFrom num den fuel (p + 1)

/-- **Decimal exponent** of a positive ratio: the place of its point before the first digit. -/
def decimalExponent (num den : Nat) : Int :=
  let bits : Int := bitLength num - bitLength den
  decimalExponentFrom num den 8 (bits * 30103 / 100000 - 2)

/-- `num / den` in units of `10 ^ p`, as a ratio. -/
def inUnits (num den : Nat) (p : Int) : Nat × Nat :=
  if p < 0 then (num * Nat.pow 10 p.natAbs, den) else (num, den * Nat.pow 10 p.natAbs)

/-- The interval of reals that round to `m · 2 ^ e`, in quarters of `2 ^ e`: both ends and whether
they belong to it. -/
def roundingInterval (m : Nat) (e : Int) : Nat × Nat × Bool :=
  let lo := if m = Nat.pow 2 52 ∧ -1074 < e then 4 * m - 1 else 4 * m - 2
  (lo, 4 * m + 2, m % 2 = 0)

/-- The grid point `d · 10 ^ p` lies in the interval of reals that round to `m · 2 ^ e`. -/
def roundsTo (m : Nat) (e : Int) (d : Nat) (p : Int) : Bool :=
  let (lo, hi, ends) := roundingInterval m e
  -- compare `d · 10 ^ p` with `lo · 2 ^ (e - 2)` and `hi · 2 ^ (e - 2)`
  let up := d * (if p < 0 then 1 else Nat.pow 10 p.natAbs) * (if e - 2 < 0 then Nat.pow 2 (e - 2).natAbs else 1)
  let scale := (if p < 0 then Nat.pow 10 p.natAbs else 1) * (if e - 2 < 0 then 1 else Nat.pow 2 (e - 2).natAbs)
  if ends then lo * scale ≤ up && up ≤ hi * scale else lo * scale < up && up < hi * scale

/-- The shortest digits from `n` digits on: the digits as a number and the power of ten they count.
-/
def shortestFrom (m : Nat) (e : Int) (point : Int) : Nat → Int → Nat × Int
  | 0, n => (0, point - n)
  | fuel + 1, n =>
    let p := point - n
    let (a, b) := inUnits (Binary64.ratio m e).1 (Binary64.ratio m e).2 p
    let low := a / b
    let near := roundDiv a b
    let far := if near = low then low + 1 else low
    if roundsTo m e near p then (near, p)
    else if roundsTo m e far p then (far, p)
    else shortestFrom m e point fuel (n + 1)

/-- **Shortest digits** of a positive finite number: its digits as text and the place of the point
before the first of them. -/
def shortest (m : Nat) (e : Int) : Text × Int :=
  let (a, b) := Binary64.ratio m e
  let (d, p) := shortestFrom m e (decimalExponent a b) 17 1
  let ds := Text.ofNat d
  (Text.dropEnd (· == '0') ds, p + ds.length)

/-- **How a number is written**: positional notation holds while the point stands after `low` and
not after `high` digits, and `whole` closes a number without a fraction. -/
structure FloatStyle where
  low : Int
  high : Int
  whole : Text
  infinity : Text

/-- Positional from `1e-4` below `1e16`; a whole number ends in `.0`. -/
def FloatStyle.real : FloatStyle := ⟨-4, 16, Text.of ".0", Text.of "inf"⟩

/-- The style of the coefficient of an imaginary number: a whole number shows no fraction. -/
def FloatStyle.imaginary : FloatStyle := { FloatStyle.real with whole := [] }

/-- The exponent part `e+07`: a sign and two digits at least. -/
def exponentText (x : Int) : Text :=
  'e' :: (if x < 0 then '-' else '+') :: Text.padNat 2 x.natAbs

/-- Digits with the point `point` places after their start. -/
def placePoint (style : FloatStyle) (ds : Text) (point : Int) : Text :=
  if style.low < point && point ≤ style.high then
    if point ≤ 0 then Text.of "0." ++ List.replicate point.natAbs '0' ++ ds
    else
      let k := point.natAbs
      if ds.length ≤ k then ds ++ List.replicate (k - ds.length) '0' ++ style.whole
      else ds.take k ++ '.' :: ds.drop k
  else
    match ds with
    | [] => []
    | d :: rest => d :: ((if rest.isEmpty then [] else '.' :: rest) ++ exponentText (point - 1))

/-- **Text of a number** in the fewest digits that read back as it. -/
def Binary64.toText (style : FloatStyle) : Binary64 → Text
  | .infinite neg => (if neg then ['-'] else []) ++ style.infinity
  | .finite neg m e =>
    (if neg then ['-'] else []) ++
      (if m = 0 then '0' :: style.whole
       else
        let (ds, point) := shortest m e
        placePoint style ds point)

end ApiPage.Decimal
