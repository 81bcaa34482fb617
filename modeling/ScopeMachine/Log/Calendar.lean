import ScopeMachine.Text

/-!
# Dates and timestamps

The date of a day that is counted from 1970-01-01. Years are taken to begin in March, so that a leap
day is the last day of its year, and are grouped into eras of 400 years, which all have the same
number of days. A log record may carry the moment of its writing, in UTC and to the millisecond.
-/

namespace ScopeMachine.Log

structure Date where
  year : Nat
  month : Nat
  day : Nat
deriving DecidableEq, Repr

/-- The date with its year taken to 32 bits. -/
def Date.shown (date : Date) : Date := { date with year := date.year % UInt32.size }

namespace Calendar

/-- The days of an era of 400 years. -/
def eraDays : Nat := 146097

/-- The days from the first of March of the year 0 to 1970-01-01. -/
def epochOffset : Nat := 719468

/-- The year within its era that a day of the era belongs to. -/
def yearOfEra (day : Nat) : Nat := (day - day / 1460 + day / 36524 - day / 146096) / 365

/-- The day of the era on which a year of the era begins. -/
def yearStart (year : Nat) : Nat := 365 * year + year / 4 - year / 100

/-- The month that a day of the year belongs to, where March is 0. -/
def monthOfYear (day : Nat) : Nat := (5 * day + 2) / 153

/-- The day of the year on which a month begins, where March is 0. -/
def monthStart (month : Nat) : Nat := (153 * month + 2) / 5

/-- The number of a month, where January is 1. -/
def monthNumber (month : Nat) : Nat := if month < 10 then month + 3 else month - 9

/-- The date of the day that is `days` days after 1970-01-01. -/
def dateOfDays (days : Nat) : Date :=
  let shifted := days + epochOffset
  let era := shifted / eraDays
  let dayOfEra := shifted % eraDays
  let yearOfEra := yearOfEra dayOfEra
  let dayOfYear := dayOfEra - yearStart yearOfEra
  let month := monthOfYear dayOfYear
  let number := monthNumber month
  let year := yearOfEra + era * 400
  { year := if number ≤ 2 then year + 1 else year
    month := number
    day := dayOfYear - monthStart month + 1 }

end Calendar

/-- A moment, counted from the beginning of 1970. -/
structure Instant where
  seconds : Nat
  nanoseconds : Nat
deriving DecidableEq, Repr

namespace Instant

/-- The moment that a clock shows. One before 1970 counts as the beginning of 1970. -/
def ofClock (seconds : Int) (nanoseconds : Nat) : Instant :=
  if seconds < 0 then ⟨0, 0⟩ else ⟨seconds.toNat, nanoseconds⟩

/-- The text of a moment in a log record. -/
def timestamp (t : Instant) : String :=
  let date := (Calendar.dateOfDays (t.seconds / 86400)).shown
  Text.decimal 4 date.year ++ "-" ++ Text.decimal 2 date.month ++ "-" ++
    Text.decimal 2 date.day ++ " " ++ Text.decimal 2 (t.seconds / 3600 % 24) ++ ":" ++
    Text.decimal 2 (t.seconds / 60 % 60) ++ ":" ++ Text.decimal 2 (t.seconds % 60) ++ "." ++
    Text.decimal 3 (t.nanoseconds / 1000000) ++ " "

end Instant

end ScopeMachine.Log
