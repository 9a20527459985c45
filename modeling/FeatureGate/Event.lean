import FeatureGate.Value

/-!
# Events and warnings

A resolver reports what it did to a listener, after it did it. Warnings go to
the log instead, whether or not anybody listens.
-/

namespace FeatureGate

/-- **What a resolver did.** -/
inductive Event where
  /-- A defined feature was resolved, and not from the cache. -/
  | resolved (feature key : String) (value : FeatureValue)
  /-- A feature that is not defined was resolved. -/
  | unknownFeatureResolved (feature key : String)
  /-- A value was written for one context. -/
  | updated (feature key : String) (value : Payload)
  /-- A value was written for every context that had one. -/
  | updatedForAll (feature : String) (value : Payload)
  /-- A stored value was removed. -/
  | deleted (feature key : String)
  /-- The stored values of the features, or of all features, were removed. -/
  | purged (features : Option (List String))
  /-- Requirements came back to a frame in flight; the frames then in flight. -/
  | cycleDetected (feature : String) (path : List String)
  /-- A first write lost against another, and the row was read again. -/
  | raceRetried (feature key : String)
deriving DecidableEq, Repr

namespace Event

/-- The name of an event. -/
def name : Event → String
  | resolved .. => "resolved"
  | unknownFeatureResolved .. => "unknown_feature_resolved"
  | updated .. => "updated"
  | updatedForAll .. => "updated_for_all"
  | deleted .. => "deleted"
  | purged _ => "purged"
  | cycleDetected .. => "cycle_detected"
  | raceRetried .. => "race_retried"

/-- The feature an event is about, if it is about a single one. -/
def feature? : Event → Option String
  | resolved feature .. | unknownFeatureResolved feature _ | updated feature ..
  | updatedForAll feature _ | deleted feature _ | cycleDetected feature _
  | raceRetried feature _ => some feature
  | purged _ => none

/-- **The JSON value of an event.** -/
def toJson (event : Event) : Json :=
  let fields : List (String × Json) := match event with
    | resolved feature key value =>
      [("feature", .string feature), ("context_key", .string key), ("value", value.toJson)]
    | unknownFeatureResolved feature key | deleted feature key | raceRetried feature key =>
      [("feature", .string feature), ("context_key", .string key)]
    | updated feature key value =>
      [("feature", .string feature), ("context_key", .string key), ("value", value)]
    | updatedForAll feature value => [("feature", .string feature), ("value", value)]
    | purged features =>
      [("features", (features.map fun names => .array (names.map .string)).getD .null)]
    | cycleDetected feature path =>
      [("feature", .string feature), ("path", .array (path.map .string))]
  .ofFields (("event", .string event.name) :: fields)

end Event

/-- **What a resolver warns of.** -/
inductive Warning where
  /-- A feature is defined that expires soon. -/
  | expiresSoon (feature : String)
  /-- Requirements came back to a frame in flight. -/
  | dependencyCycle (feature key : String)
  /-- A first write lost against another. -/
  | concurrentFirstWrite (feature key : String)
deriving DecidableEq, Repr

namespace Warning

/-- The wording of a warning. -/
def message : Warning → String
  | expiresSoon _ => "Feature expires soon"
  | dependencyCycle .. => "Dependency cycle detected, resolving inactive"
  | concurrentFirstWrite .. => "Concurrent first write, retrying read"

/-- The JSON value of a warning. -/
def toJson (warning : Warning) : Json :=
  let fields := match warning with
    | expiresSoon feature => [("feature", .string feature)]
    | dependencyCycle feature key | concurrentFirstWrite feature key =>
      [("feature", .string feature), ("key", .string key)]
  .ofFields (("message", .string warning.message) :: fields)

end Warning

end FeatureGate
