import ApiPage.Decimal.Binary64
import ApiPage.Text.Basic

/-!
# Points in time

The date and time of day of a number of seconds since the start of 1970, in universal time and in
the Gregorian calendar. A number with a fraction is rounded to microseconds, a half to the even
neighbour.

## Main definitions

* `CivilTime`: a date and a time of day.
* `Seconds.civil`: the date and time of a number of seconds.
-/

namespace ApiPage.Log

open Decimal (Binary64 roundDiv)

/-- **Date and time of day**. -/
structure CivilTime where
  year : Int
  month : Nat
  day : Nat
  hour : Nat
  minute : Nat
  second : Nat
  microsecond : Nat
  deriving DecidableEq, Inhabited

/-- **Seconds** since the start of 1970. -/
inductive Seconds
  | whole (i : Int)
  | real (x : Binary64)

/-- Why a number of seconds has no date. -/
inductive TimeError
  | notCounted
  | notBroken
  | yearOut (year : Int)
  deriving DecidableEq

/-- The wording of an error. -/
def TimeError.message : TimeError → Text
  | notCounted => Text.of "timestamp out of range for platform time_t"
  | notBroken => Text.of "[Errno 75] Value too large for defined data type"
  | yearOut year => Text.of "year " ++ Text.ofInt year ++ Text.of " is out of range"

namespace Seconds

/-- Whole seconds and microseconds of a fraction of a second that is rounded on its own. The
fraction is first scaled within the format. -/
def split (neg : Bool) (m : Nat) (e : Int) : Int × Nat :=
  let (a, b) := Binary64.ratio m e
  let whole : Int := Binary64.truncate neg m e
  let micros := match Binary64.ofRatio false (a % b * Nat.pow 10 6) b with
    | .finite _ m e =>
      let (c, d) := Binary64.ratio m e
      roundDiv c d
    | .infinite _ => 0
  if neg && micros != 0 then (whole - 1, Nat.pow 10 6 - micros)
  else if Nat.pow 10 6 ≤ micros then (whole + 1, micros - Nat.pow 10 6)
  else (whole, micros)

/-- Whole seconds and microseconds, if the seconds can be counted in 64 bits. -/
def counted : Seconds → Except TimeError (Int × Nat)
  | whole i => if -Nat.pow 2 63 ≤ i && i < Nat.pow 2 63 then .ok (i, 0) else .error .notCounted
  | real (.infinite _) => .error .notCounted
  | real (.finite neg m e) =>
    let (i, micros) := split neg m e
    if -Nat.pow 2 63 ≤ i && i < Nat.pow 2 63 then .ok (i, micros) else .error .notCounted

/-- The days from the first of March of the year 0 to the start of 1970. -/
def daysBeforeEpoch : Int := 719468

/-- The days of four hundred years. -/
def daysOfEra : Int := 146097

/-- The year, month and day of a number of days since the start of 1970. Years are counted from
March, so that the day of a leap year comes last. -/
def dateOfDays (days : Int) : Int × Nat × Nat :=
  let z := days + daysBeforeEpoch
  let era := Int.fdiv z daysOfEra
  let dayOfEra := (Int.fmod z daysOfEra).toNat
  let yearOfEra := (dayOfEra - dayOfEra / 1460 + dayOfEra / 36524 - dayOfEra / 146096) / 365
  let dayOfYear := dayOfEra - (365 * yearOfEra + yearOfEra / 4 - yearOfEra / 100)
  let monthFromMarch := (5 * dayOfYear + 2) / 153
  let day := dayOfYear - (153 * monthFromMarch + 2) / 5 + 1
  let month := if monthFromMarch < 10 then monthFromMarch + 3 else monthFromMarch - 9
  (yearOfEra + era * 400 + (if month ≤ 2 then 1 else 0), month, day)

/-- **The date and time of a number of seconds**. The year must fit into 32 bits when it is counted
from 1900, and lie between 1 and 9999. -/
def civil (s : Seconds) : Except TimeError CivilTime := do
  let (i, microsecond) ← s.counted
  let (year, month, day) := dateOfDays (Int.fdiv i 86400)
  let time := (Int.fmod i 86400).toNat
  if year - 1900 < -Nat.pow 2 31 || Nat.pow 2 31 ≤ year - 1900 then throw .notBroken
  if year < 1 || 9999 < year then throw (.yearOut year)
  return {
    year, month, day, microsecond
    hour := time / 3600, minute := time / 60 % 60, second := time % 60 }

end Seconds

namespace CivilTime

/-- The time of day. -/
def clock (t : CivilTime) : Text :=
  Text.padNat 2 t.hour ++ ':' :: Text.padNat 2 t.minute ++ ':' :: Text.padNat 2 t.second

/-- **Stamp** of a time: its date and its time of day with nine places. -/
def stamp (t : CivilTime) : Text :=
  Text.ofInt t.year ++ '-' :: Text.padNat 2 t.month ++ '-' :: Text.padNat 2 t.day ++ 'T' ::
    t.clock ++ '.' :: Text.padNat 9 (t.microsecond * 1000) ++ ['Z']

end CivilTime
end ApiPage.Log
