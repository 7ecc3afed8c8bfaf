import GroundLink.Text.Numeral

/-!
# Civil calendar

Days are counted from 1970-01-01 in both directions and turned into a date of the Gregorian
calendar.  The count is moved to an era of 400 years that starts on a first of March, so that the
leap day is the last day of its year.
-/

namespace GroundLink

/-- A date of the Gregorian calendar, extended to all years; the year before 1 is 0. -/
structure Calendar.Date where
  year : Int
  month : Nat
  day : Nat
  deriving DecidableEq, Repr

namespace Calendar

/-- Days from 1958-01-01, the epoch of spacecraft time codes, to 1970-01-01. -/
def epochDays : Nat := 4383

/-- Days from 0000-03-01 to 1970-01-01. -/
def eraDays : Int := 719468

/-- The date that lies a number of days after 1970-01-01. -/
def dateOfDays (days : Int) : Date :=
  let shifted := days + eraDays
  let era := shifted / 146097
  let dayOfEra := (shifted % 146097).toNat
  let yearOfEra := (dayOfEra - dayOfEra / 1460 + dayOfEra / 36524 - dayOfEra / 146096) / 365
  let dayOfYear := dayOfEra - (365 * yearOfEra + yearOfEra / 4 - yearOfEra / 100)
  let monthFromMarch := (5 * dayOfYear + 2) / 153
  let day := dayOfYear - (153 * monthFromMarch + 2) / 5 + 1
  let month := if monthFromMarch < 10 then monthFromMarch + 3 else monthFromMarch - 9
  let year := (yearOfEra : Int) + era * 400
  ⟨if month ≤ 2 then year + 1 else year, month, day⟩

/-- A year with at least four digits, and with its sign unless it has exactly four. -/
def yearText (year : Int) : String :=
  if 0 ≤ year ∧ year < 10000 then Text.decimal 4 year.toNat
  else (if year < 0 then "-" else "+") ++ Text.decimal 4 year.natAbs

/-- Year, month and day, separated by hyphens. -/
def Date.render (d : Date) : String :=
  yearText d.year ++ "-" ++ Text.decimal 2 d.month ++ "-" ++ Text.decimal 2 d.day

/-- An instant: seconds since 1970 in the zone of the prime meridian, and nanoseconds.  A leap
second is the second before it with a thousand million nanoseconds more. -/
structure Instant where
  seconds : Int
  nanos : Nat
  deriving DecidableEq, Repr, Inhabited

/-- The time of day of a number of seconds since midnight, of which some are leap seconds. -/
def clockText (seconds leap : Nat) : String :=
  Text.decimal 2 (seconds / 3600) ++ ":" ++ Text.decimal 2 (seconds / 60 % 60) ++ ":" ++
    Text.decimal 2 (seconds % 60 + leap)

/-- Date and time with six decimals.  What is below a microsecond is dropped. -/
def Instant.render (i : Instant) : String :=
  (dateOfDays (i.seconds / 86400)).render ++ "T" ++
    clockText (i.seconds % 86400).toNat (i.nanos / 1000000000) ++ "." ++
    Text.decimal 6 (i.nanos % 1000000000 / 1000) ++ "Z"

end Calendar

end GroundLink
