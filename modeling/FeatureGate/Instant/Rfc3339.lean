import FeatureGate.Instant.Calendar
import FeatureGate.Text.Blank
import FeatureGate.Text.Digits
import FeatureGate.Text.Reading

/-!
# Written instants

Instants are written as RFC 3339 asks, in universal time and with `Z`: no
fraction, or three, six or nine digits of one, as few as are exact. A year
outside 0 to 9999 carries a sign and at least four digits. A leap second is the
second sixty.

Reading is more lenient. Numbers may have fewer digits than usual and blanks
before them, blanks may stand around the separators and at the end, date and
time may be separated by a blank, `UTC` may replace `Z`, a year with a sign may
have any number of digits, and the separator of an offset may be missing. Digits
of a fraction past the ninth are passed over.
-/

namespace FeatureGate.Instant

open Text (isBlank padded value)

/-! ## Writing -/

/-- A year: four digits, and a sign if it needs more or is negative. -/
def yearText (year : Int) : String :=
  if 0 ≤ year ∧ year ≤ 9999 then padded 4 year.toNat
  else (if year < 0 then "-" else "+") ++ padded 4 year.natAbs

/-- The fraction of a second, as short as it is exact in groups of three
digits. -/
def fractionText (nanos : Nat) : String :=
  if nanos = 0 then ""
  else if nanos % 1000000 = 0 then "." ++ padded 3 (nanos / 1000000)
  else if nanos % 1000 = 0 then "." ++ padded 6 (nanos / 1000)
  else "." ++ padded 9 nanos

/-- **The text of an instant.** -/
def text (instant : Instant) : String :=
  let date := Calendar.Date.ofDays (instant.seconds / daySeconds)
  let second := (instant.seconds % daySeconds).toNat
  let leap := instant.nanos / 1000000000
  yearText date.year ++ "-" ++ padded 2 date.month ++ "-" ++ padded 2 date.day
    ++ "T" ++ padded 2 (second / 3600) ++ ":" ++ padded 2 (second / 60 % 60)
    ++ ":" ++ padded 2 (second % 60 + leap)
    ++ fractionText (instant.nanos % 1000000000) ++ "Z"

/-! ## Reading -/

namespace Written

open Text.Reading

/-- A step of reading. -/
abbrev Step := Text.Reading

/-- Pass over blanks. -/
def blanks : Step Unit := skipWhile isBlank

/-- A number of at most `width` digits, after blanks. -/
def number (width : Nat) : Step Nat := do
  blanks
  return value (← digits width)

/-- A separator between two numbers, after blanks. -/
def separator (c : Char) : Step Unit := do
  blanks
  expect c

/-- A year: up to four digits, or a sign and any number of digits. -/
def year : Step Int := do
  blanks
  match ← peek with
  | some '-' =>
    let _ ← next
    return -(value (← digits (← get).length) : Int)
  | some '+' =>
    let _ ← next
    return (value (← digits (← get).length) : Int)
  | _ => return (value (← digits 4) : Int)

/-- An offset from universal time in seconds: `Z`, `UTC`, or a sign with hours
and minutes. -/
def offset : Step Int := do
  let cs ← get
  if (String.ofList (cs.take 3)).toLower = "utc" then
    set (cs.drop 3)
    return 0
  match ← next with
  | 'Z' | 'z' => return 0
  | sign =>
    guard (sign == '+' || sign == '-' || sign == '−')
    let hours ← exactly 2
    skipWhile fun c => c == ':' || isBlank c
    let minutes ← exactly 2
    guard (value minutes < 60)
    let seconds : Int := value hours * 3600 + value minutes * 60
    guard (seconds < daySeconds)
    return if sign == '+' then seconds else -seconds

/-- A date. -/
def date : Step Calendar.Date := do
  let year ← year
  separator '-'
  let month ← number 2
  separator '-'
  let day ← number 2
  return ⟨year, month, day⟩

/-- A time of the day: its second and the nanoseconds from there on. The second
sixty is a leap second. -/
def time : Step (Nat × Nat) := do
  let hour ← number 2
  separator ':'
  let minute ← number 2
  separator ':'
  let second ← number 2
  let nanos ← billionths
  guard (hour < 24 && minute < 60 && second ≤ 60)
  let start := hour * 3600 + minute * 60
  return if second = 60 then (start + 59, nanos + 1000000000) else (start + second, nanos)

/-- A whole instant: date, separator, time, offset, and blanks at the end. -/
def instant : Step Instant := do
  let date ← date
  guard date.valid
  guard ((← next) ∈ ['t', 'T', ' '])
  let (second, nanos) ← time
  blanks
  let offset ← offset
  blanks
  ofSeconds? (date.toDays * daySeconds + second - offset) nanos

end Written

/-- **The instant of a text.** -/
def ofText? (text : String) : Option Instant :=
  Written.instant.whole? text.toList

end FeatureGate.Instant
