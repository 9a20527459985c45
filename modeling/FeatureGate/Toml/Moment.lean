import FeatureGate.Instant.Calendar
import FeatureGate.Text.Digits
import FeatureGate.Text.Reading

/-!
# TOML dates and times

A moment is a date, a time of the day, or both; a date with a time may say how
far it is from universal time. The seconds of a time may be left out, and then
they are zero. Of a fraction nine digits count.

A moment is written in one way only, with seconds, with as few digits of a
fraction as are exact, and with capital letters, however it was spelled.
-/

namespace FeatureGate.Toml

open Text (Reading padded value)
open Text.Reading

/-- **A time of the day.** -/
structure Time where
  /-- The hour. -/
  hour : Nat
  /-- The minute. -/
  minute : Nat
  /-- The second; sixty is a leap second. -/
  second : Nat
  /-- The billionths of a second. -/
  nanos : Nat
deriving DecidableEq, Repr

/-- **How far a clock is from universal time.** -/
inductive Offset where
  /-- It shows universal time. -/
  | universal
  /-- It is so many minutes ahead, or behind if they are negative. -/
  | minutes (ahead : Int)
deriving DecidableEq, Repr

/-- **A date, a time, or both.** -/
inductive Moment where
  /-- A date. -/
  | date (date : Calendar.Date)
  /-- A time of the day. -/
  | time (time : Time)
  /-- Both, and the offset if there is one. -/
  | both (date : Calendar.Date) (time : Time) (offset : Option Offset)
deriving DecidableEq, Repr

/-! ## Writing -/

/-- The text of a date; its year has four digits. -/
def dateText (date : Calendar.Date) : String :=
  padded 4 date.year.toNat ++ "-" ++ padded 2 date.month ++ "-" ++ padded 2 date.day

/-- The text of a time. -/
def Time.text (time : Time) : String :=
  let places := ((padded 9 time.nanos).toList.reverse.dropWhile (· = '0')).reverse
  padded 2 time.hour ++ ":" ++ padded 2 time.minute ++ ":" ++ padded 2 time.second
    ++ if places.isEmpty then "" else "." ++ String.ofList places

/-- The text of an offset. -/
def Offset.text : Offset → String
  | universal => "Z"
  | minutes ahead =>
    (if ahead < 0 then "-" else "+")
      ++ padded 2 (ahead.natAbs / 60) ++ ":" ++ padded 2 (ahead.natAbs % 60)

/-- **The text of a moment.** -/
def Moment.text : Moment → String
  | .date day => dateText day
  | .time clock => clock.text
  | .both day clock offset =>
    dateText day ++ "T" ++ clock.text ++ (offset.map Offset.text).getD ""

/-! ## Reading -/

/-- A date. -/
def date : Reading Calendar.Date := do
  let year := value (← exactly 4)
  expect '-'
  let month := value (← exactly 2)
  expect '-'
  let date : Calendar.Date := ⟨year, month, value (← exactly 2)⟩
  guard date.valid
  return date

/-- Two numbers of two digits, an hour and a minute. -/
def hourMinute : Reading (Nat × Nat) := do
  let hour := value (← exactly 2)
  expect ':'
  let minute := value (← exactly 2)
  guard (hour < 24 && minute < 60)
  return (hour, minute)

/-- A time of the day. -/
def time : Reading Time := do
  let (hour, minute) ← hourMinute
  if ← skip ":" then
    let second := value (← exactly 2)
    guard (second ≤ 60)
    return ⟨hour, minute, second, ← billionths⟩
  else return ⟨hour, minute, 0, 0⟩

/-- An offset from universal time. -/
def offset : Reading Offset := do
  match ← next with
  | 'Z' | 'z' => return .universal
  | sign =>
    guard (sign == '+' || sign == '-')
    let (hour, minute) ← hourMinute
    let ahead : Int := hour * 60 + minute
    return .minutes (if sign == '-' then -ahead else ahead)

/-- **A moment.** -/
def moment : Reading Moment := do
  match (← get)[2]? with
  | some ':' => return .time (← time)
  | _ =>
    let date ← date
    if (← peek).isNone then return .date date
    guard ((← next) ∈ ['T', 't', ' '])
    let time ← time
    if (← peek).isNone then return .both date time none
    return .both date time (some (← offset))

end FeatureGate.Toml
