/-!
# Instants

An instant counts seconds since 1970-01-01T00:00:00Z, before it negatively, and
nanoseconds forward from the second. The instants that can be represented run
from the start of the year -262143 to the end of the year 262142.

A leap second is told as the second before it with a billion nanoseconds or
more, so instants are ordered by the seconds first. To add seconds inside a leap
second is to leave it, and whether it counts between an instant inside it and
another one is told by their seconds of the day.

Durations in days are bounded too: they are counted in milliseconds by a signed
sixty-four bit word.
-/

namespace FeatureGate

/-- **An instant** of universal time. -/
structure Instant where
  /-- Seconds since the start of 1970. -/
  seconds : Int
  /-- Nanoseconds from there on; a billion or more inside a leap second. -/
  nanos : Nat
  /-- The instant can be represented. -/
  inRange : -8334601228800 ≤ seconds ∧ seconds ≤ 8210266876799 ∧ nanos < 2000000000
deriving DecidableEq, Repr

namespace Instant

/-- The instant of a count of seconds and nanoseconds, if it can be
represented. -/
def ofSeconds? (seconds : Int) (nanos : Nat) : Option Instant :=
  if h : -8334601228800 ≤ seconds ∧ seconds ≤ 8210266876799 ∧ nanos < 2000000000 then
    some ⟨seconds, nanos, h⟩
  else none

/-- The start of 1970. -/
def epoch : Instant := ⟨0, 0, by decide⟩

instance : Inhabited Instant := ⟨epoch⟩

/-- **Before**: by seconds, then by nanoseconds. -/
def before (a b : Instant) : Bool :=
  a.seconds < b.seconds || (a.seconds == b.seconds && a.nanos < b.nanos)

/-- Whether an instant is inside a leap second. -/
def isLeap (instant : Instant) : Bool := 1000000000 ≤ instant.nanos

/-- **The instant some seconds later**, if it can be represented. A leap second is left
on the side to which the seconds go. -/
def addSeconds? (instant : Instant) (seconds : Int) : Option Instant :=
  if instant.isLeap && seconds ≠ 0 then
    let start := if seconds < 0 then instant.seconds + 1 else instant.seconds
    ofSeconds? (start + seconds) (instant.nanos - 1000000000)
  else ofSeconds? (instant.seconds + seconds) instant.nanos

/-- The seconds of a day. -/
def daySeconds : Int := 86400

/-- The greatest number of days a duration can have. -/
def maxDays : Int := 106751991167

/-- Whether a number of days is a duration. -/
def isDuration (days : Int) : Bool := -maxDays ≤ days && days ≤ maxDays

/-- A length of time: whole seconds and nanoseconds below a billion. -/
structure Duration where
  /-- The whole seconds. -/
  seconds : Int
  /-- The nanoseconds beyond them. -/
  nanos : Nat
deriving DecidableEq, Repr

/-- The second of the day, from zero on. -/
def secondOfDay (instant : Instant) : Int := instant.seconds % daySeconds

/-- **The leap seconds that count** between two instants: that of an instant inside one, if
the second of the day of the other is on the far side of it. The days have no part in this. -/
def leapSecondsSince (later earlier : Instant) : Int :=
  if earlier.isLeap && earlier.secondOfDay < later.secondOfDay then 1
  else if later.isLeap && later.secondOfDay < earlier.secondOfDay then -1
  else 0

/-- **The time from one instant to another**: outside of leap seconds, the exact
difference. -/
def since (later earlier : Instant) : Duration :=
  let seconds := later.seconds - earlier.seconds + later.leapSecondsSince earlier
  let total : Int := seconds * 1000000000 + ((later.nanos : Int) - earlier.nanos)
  ⟨total / 1000000000, (total % 1000000000).toNat⟩

end Instant

end FeatureGate
