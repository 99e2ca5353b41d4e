/-!
# The calendar

Seconds since the start of 1970 as a date and a time of day, both in universal time. A year is
counted from March on, so that the day that leap years add is its last one.
-/

set_option autoImplicit false

namespace Cyclomatic.Calendar

/-- A day of the calendar. -/
structure Date where
  year : Nat
  /-- The month, from one on. -/
  month : Nat
  /-- The day of the month, from one on. -/
  day : Nat
  deriving DecidableEq, Repr

/-- The days from the first of March of the year zero to the start of 1970. -/
def daysBefore1970 : Nat := 719468

/-- The days of four hundred years. -/
def daysOfEra : Nat := 146097

/-- The day that is so many days after the start of 1970. -/
def dateOfDay (day : Nat) : Date :=
  let day := day + daysBefore1970
  let dayOfEra := day % daysOfEra
  let yearOfEra := (dayOfEra - dayOfEra / 1460 + dayOfEra / 36524 - dayOfEra / 146096) / 365
  let dayOfYear := dayOfEra - (365 * yearOfEra + yearOfEra / 4 - yearOfEra / 100)
  let monthFromMarch := (5 * dayOfYear + 2) / 153
  let month := if monthFromMarch < 10 then monthFromMarch + 3 else monthFromMarch - 9
  { year := yearOfEra + day / daysOfEra * 400 + if month ≤ 2 then 1 else 0
    month
    day := dayOfYear - (153 * monthFromMarch + 2) / 5 + 1 }

/-- A number with zeros in front, up to `width` digits. -/
def padded (width n : Nat) : String :=
  let digits := toString n
  String.ofList (List.replicate (width - digits.length) '0') ++ digits

/-- A date as it is written. -/
def Date.text (d : Date) : String :=
  padded 4 d.year ++ "-" ++ padded 2 d.month ++ "-" ++ padded 2 d.day

/-- The seconds of a day. -/
def secondsOfDay : Nat := 86400

/-- The time of day as it is written. -/
def timeText (seconds : Nat) : String :=
  let second := seconds % secondsOfDay
  padded 2 (second / 3600) ++ ":" ++ padded 2 (second / 60 % 60) ++ ":" ++ padded 2 (second % 60)

/-- The date and the time of day, to the millisecond. -/
def moment (milliseconds : Nat) : String :=
  let seconds := milliseconds / 1000
  (dateOfDay (seconds / secondsOfDay)).text ++ " " ++ timeText seconds ++ ","
    ++ padded 3 (milliseconds % 1000)

/-- The date and the time of day, with the mark of universal time. -/
def stamp (seconds : Nat) : String :=
  (dateOfDay (seconds / secondsOfDay)).text ++ "T" ++ timeText seconds ++ "Z"

end Cyclomatic.Calendar
