import FeatureGate.Bucket
import FeatureGate.Context.Key
import FeatureGate.Expiration

/-!
# Feature definitions

A definition says how a feature comes out the first time a context asks for it,
when it expires, and which other features it requires. Its rule is a constant,
a percentage of the contexts, a weighted split over variants, or a closure.

A closure is code of whoever defined the feature, and may come out differently
each time. A definition holds a handle of it only; evaluating a closure is a
question to the world outside.
-/

namespace FeatureGate

/-- **A handle of a closure.** -/
structure Closure where
  /-- Which closure it is. -/
  id : Nat
deriving DecidableEq, Repr

/-- **The rule of a feature**: how it computes its first payload. -/
inductive Rule where
  /-- The same payload for everyone. -/
  | constant (payload : Payload)
  /-- Whatever a closure makes of the context. -/
  | closure (closure : Closure)
  /-- `true` for a percentage of the contexts. -/
  | percentage (percentage : UInt8)
  /-- A weighted split; the payload is the name of a variant. -/
  | variants (table : VariantTable)
deriving DecidableEq

/-- **A feature definition.** -/
structure Definition where
  /-- The name of the feature. -/
  name : String
  /-- What it is for. -/
  description : Option String
  /-- How its first payload is computed. -/
  rule : Rule
  /-- When it expires, if ever. -/
  expiration : Option Expiration
  /-- The features it requires, in the order they are checked. -/
  required : List String
deriving DecidableEq

namespace Definition

/-- A definition with a rule alone. -/
def ofRule (name : String) (rule : Rule) : Definition := ⟨name, none, rule, none, []⟩

/-- The variant table of a variant feature. -/
def table? (definition : Definition) : Option VariantTable :=
  match definition.rule with
  | .variants table => some table
  | _ => none

/-- Whether the feature has expired. -/
def isExpiredAt (definition : Definition) (now : Instant) : Bool :=
  definition.expiration.any (·.isExpiredAt now)

/-- Whether the feature expires within some days. -/
def isExpiringSoonAt (definition : Definition) (now : Instant) (days : Int) : Bool :=
  definition.expiration.any (·.isExpiringSoonAt now days)

/-- **The first payload for a context**, or the closure that has to be asked
for it. -/
def firstPayload (definition : Definition) (key : String) : Closure ⊕ Payload :=
  match definition.rule with
  | .constant payload => .inr payload
  | .closure closure => .inl closure
  | .percentage percentage => .inr (.bool (Bucket.inRollout definition.name key percentage))
  | .variants table => .inr (.string (Bucket.variant definition.name key table))

/-- **What keeps a definition from being registered**: a blank name, a
percentage above a hundred, or a blank name among the features required, looked
for in this order. -/
def validate (definition : Definition) : Except FeatureError Unit := do
  if Text.isBlankText definition.name then
    throw (.configStated "feature name cannot be empty")
  if let .percentage percentage := definition.rule then
    if percentage > 100 then
      throw (.invalidPercentage definition.name percentage)
  if definition.required.any Text.isBlankText then
    throw (.configStated
      ("feature '" ++ definition.name ++ "' requires an unnamed feature"))

end Definition

end FeatureGate
