import DumpTransfer.Text.Basic

/-! Points in time and their written form: the date of the Gregorian calendar and the time of
day in coordinated universal time.
-/

namespace DumpTransfer

/-- A point in time, in milliseconds since the beginning of the year 1970. -/
structure Instant where
  milliseconds : Int
  deriving DecidableEq, Repr

namespace Instant

/-- A number with zeros before it up to a given number of digits. -/
def padded (width number : Nat) : Text :=
  let digits := Text.ofNat number
  List.replicate (width - digits.length) '0' ++ digits

/-- The days in four centuries. -/
def daysInEra : Int :=
  146097

/-- The year, month and day of a number of days since the beginning of 1970. Years are counted
from March on, so that a leap day is the last day of its year.
-/
def civil (days : Int) : Int × Nat × Nat :=
  let shifted := days + 719468
  let era := shifted.fdiv daysInEra
  let dayOfEra := (shifted.fmod daysInEra).toNat
  let yearOfEra :=
    (dayOfEra - dayOfEra / 1460 + dayOfEra / 36524 - dayOfEra / 146096) / 365
  let dayOfYear := dayOfEra - (365 * yearOfEra + yearOfEra / 4 - yearOfEra / 100)
  let monthFromMarch := (5 * dayOfYear + 2) / 153
  let day := dayOfYear - (153 * monthFromMarch + 2) / 5 + 1
  let month := if monthFromMarch < 10 then monthFromMarch + 3 else monthFromMarch - 9
  let year := (yearOfEra : Int) + era * 400 + (if month ≤ 2 then 1 else 0)
  (year, month, day)

/-- A year with four digits, and with a sign if that is not enough. -/
def yearText (year : Int) : Text :=
  if year < 0 then '-' :: padded 4 year.natAbs
  else if 9999 < year then '+' :: padded 4 year.natAbs
  else padded 4 year.natAbs

/-- The fraction of a second, unless it is zero. -/
def fractionText (milliseconds : Nat) : Text :=
  if milliseconds = 0 then [] else '.' :: padded 3 milliseconds

/-- A point in time with the given text for its zone. -/
def render (instant : Instant) (zone : Text) : Text :=
  let seconds := instant.milliseconds.fdiv 1000
  let (year, month, day) := civil (seconds.fdiv 86400)
  let secondOfDay := (seconds.fmod 86400).toNat
  yearText year ++ "-" ++ padded 2 month ++ "-" ++ padded 2 day ++ "T"
    ++ padded 2 (secondOfDay / 3600) ++ ":" ++ padded 2 (secondOfDay / 60 % 60) ++ ":"
    ++ padded 2 (secondOfDay % 60)
    ++ fractionText (instant.milliseconds.fmod 1000).toNat ++ zone

/-- The seconds from one point in time to another. -/
def secondsUntil (start finish : Instant) : Float :=
  Float.ofInt (finish.milliseconds - start.milliseconds) / 1000.0

end Instant

end DumpTransfer
