import Telemetry.Decimal.Layout

/-!
# Timestamps

An instant of universal time, counted from the start of 1970, and its text in the format of RFC
3339.

## Main definitions

- `Timestamp` — an instant
- `Timestamp.Date` — a day of the Gregorian calendar
- `Timestamp.render` — the text of an instant
-/

namespace Telemetry

/-- An instant: seconds since the start of 1970 and nanoseconds within the second. From a full
    second of nanoseconds on, the instant lies in a leap second behind the given one. -/
structure Timestamp where
  seconds : Int
  nanoseconds : Nat
  deriving DecidableEq, Repr

namespace Timestamp

/-- A day of the Gregorian calendar. -/
structure Date where
  year : Int
  month : Nat
  day : Nat
  deriving DecidableEq, Repr

/-- The date of a day, counted from the start of 1970. Years are taken to start in March, so that a
    leap day is the last of its year, and are counted in eras of four hundred. -/
def Date.ofDays (days : Int) : Date :=
  let shifted := days + 719468
  let era := shifted / 146097
  let dayOfEra := (shifted % 146097).toNat
  let yearOfEra := (dayOfEra - dayOfEra / 1460 + dayOfEra / 36524 - dayOfEra / 146096) / 365
  let dayOfYear := dayOfEra - (365 * yearOfEra + yearOfEra / 4 - yearOfEra / 100)
  let fromMarch := (5 * dayOfYear + 2) / 153
  let month := if fromMarch < 10 then fromMarch + 3 else fromMarch - 9
  { year := era * 400 + yearOfEra + (if month ≤ 2 then 1 else 0)
    month := month
    day := dayOfYear - (153 * fromMarch + 2) / 5 + 1 }

/-- The text of a year: four digits, and a sign if the year is negative or has more of them. -/
def renderYear (year : Int) : Text :=
  let ds := Decimal.padded 4 year.natAbs
  if year < 0 then '-' :: ds else if 9999 < year then '+' :: ds else ds

/-- The text of a fraction of a second: the fewest digits of none, three, six and nine that are
    exact. -/
def renderFraction (nanoseconds : Nat) : Text :=
  if nanoseconds = 0 then []
  else if nanoseconds % 1000000 = 0 then '.' :: Decimal.padded 3 (nanoseconds / 1000000)
  else if nanoseconds % 1000 = 0 then '.' :: Decimal.padded 6 (nanoseconds / 1000)
  else '.' :: Decimal.padded 9 nanoseconds

/-- The text of an instant in the format of RFC 3339, in universal time. -/
def render (t : Timestamp) : Text :=
  let date := Date.ofDays (t.seconds / 86400)
  let secondOfDay := (t.seconds % 86400).toNat
  let second := secondOfDay % 60 + t.nanoseconds / 1000000000
  renderYear date.year ++ '-' :: Decimal.padded 2 date.month ++ '-' :: Decimal.padded 2 date.day ++
    'T' :: Decimal.padded 2 (secondOfDay / 3600) ++
    ':' :: Decimal.padded 2 (secondOfDay / 60 % 60) ++ ':' :: Decimal.padded 2 second ++
    renderFraction (t.nanoseconds % 1000000000) ++ ['Z']

end Timestamp

end Telemetry
