import FeatureGate.Instant.Rfc3339
import FeatureGate.Json.Record

/-!
# Expiration

A feature may expire. It has expired once the clock is past the instant – at
the instant itself it has not. It expires soon if the instant lies in a window
of some days that starts now, both ends included; a window that reaches past
the last instant has no end.
-/

namespace FeatureGate

/-- **The expiry of a feature.** -/
structure Expiration where
  /-- The last instant at which the feature has not expired. -/
  expiresAt : Instant
deriving DecidableEq, Repr

namespace Expiration

/-- Whether the clock is past the expiry. -/
def isExpiredAt (expiration : Expiration) (now : Instant) : Bool :=
  expiration.expiresAt.before now

/-- The end of a window of some days, if it can be represented. -/
def windowEnd? (now : Instant) (days : Int) : Option Instant :=
  if Instant.isDuration days then now.addSeconds? (days * Instant.daySeconds) else none

/-- **Whether the expiry lies in the window** of some days from now. A negative
window holds nothing. -/
def isExpiringSoonAt (expiration : Expiration) (now : Instant) (days : Int) : Bool :=
  if days < 0 || expiration.expiresAt.before now then false
  else match windowEnd? now days with
    | some last => !last.before expiration.expiresAt
    | none => true

/-- The time left before the expiry, if there is any. -/
def remainingAt (expiration : Expiration) (now : Instant) : Option Instant.Duration :=
  if now.before expiration.expiresAt then some (expiration.expiresAt.since now) else none

/-- The document of an expiry. -/
def toDocument (expiration : Expiration) : Json.Document :=
  .record [("expires_at", .text expiration.expiresAt.text)]

/-- The expiry of a document. -/
def ofDocument? (document : Json.Document) : Option Expiration := do
  let [expiresAt] ← document.fields? ["expires_at"] | none
  some ⟨← Instant.ofText? (← (← expiresAt).text?)⟩

end Expiration

end FeatureGate
