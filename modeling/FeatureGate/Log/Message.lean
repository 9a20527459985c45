import FeatureGate.Log.Level

/-!
# Log messages

A message as far as a log looks at it, before it is written: where it comes
from, how severe it is and what it tells. What it tells are fields with names;
its text is the field `message`.
-/

namespace FeatureGate.Log

/-- **A message.** -/
structure Message where
  /-- Where it comes from. -/
  place : String
  /-- How severe it is. -/
  level : Level
  /-- The names of its fields. -/
  fields : List String
deriving DecidableEq, Repr

end FeatureGate.Log
