import FeatureGate.Instant.Basic

/-!
# The calendar

Dates of the proleptic Gregorian calendar and the day numbers they stand for,
counted from 1970-01-01. A cycle of four hundred years has 146097 days. Inside
a cycle years are counted from March on, which puts the leap day last; the
months then repeat with a period of five months and 153 days.
-/

namespace FeatureGate.Calendar

/-- **A date.** -/
structure Date where
  /-- The year; there is a year zero. -/
  year : Int
  /-- The month, from 1. -/
  month : Nat
  /-- The day of the month, from 1. -/
  day : Nat
deriving DecidableEq, Repr

/-- Whether a year has a leap day. -/
def isLeap (year : Int) : Bool :=
  year % 4 == 0 && (year % 100 != 0 || year % 400 == 0)

/-- The days of a month. -/
def monthLength (year : Int) (month : Nat) : Nat :=
  match month with
  | 2 => if isLeap year then 29 else 28
  | 4 | 6 | 9 | 11 => 30
  | _ => 31

/-- Whether a date exists, in a year that instants reach. -/
def Date.valid (date : Date) : Bool :=
  -262143 ≤ date.year && date.year ≤ 262142
    && 1 ≤ date.month && date.month ≤ 12
    && 1 ≤ date.day && date.day ≤ monthLength date.year date.month

/-- **The day number of a date.** -/
def Date.toDays (date : Date) : Int :=
  let year := if date.month ≤ 2 then date.year - 1 else date.year
  let cycle := year / 400
  let yearOfCycle := year % 400
  let month : Int := if date.month ≤ 2 then date.month + 9 else date.month - 3
  let dayOfYear := (153 * month + 2) / 5 + date.day - 1
  let dayOfCycle := yearOfCycle * 365 + yearOfCycle / 4 - yearOfCycle / 100 + dayOfYear
  cycle * 146097 + dayOfCycle - 719468

/-- **The date of a day number.** -/
def Date.ofDays (days : Int) : Date :=
  let shifted := days + 719468
  let cycle := shifted / 146097
  let dayOfCycle := (shifted % 146097).toNat
  let yearOfCycle :=
    (dayOfCycle - dayOfCycle / 1460 + dayOfCycle / 36524 - dayOfCycle / 146096) / 365
  let dayOfYear := dayOfCycle - (365 * yearOfCycle + yearOfCycle / 4 - yearOfCycle / 100)
  let month := (5 * dayOfYear + 2) / 153
  let day := dayOfYear - (153 * month + 2) / 5 + 1
  let year := (yearOfCycle : Int) + cycle * 400
  if month < 10 then ⟨year, month + 3, day⟩ else ⟨year + 1, month - 9, day⟩

end FeatureGate.Calendar
