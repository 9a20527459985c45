import FeatureGate.Resolver.Resolve

/-!
# Defining features

A definition is registered for all resolvers that share the registry. The one
that registers it forgets what it had cached for the feature, and warns first if
the definition expires soon – before the definition is found fit to be
registered.
-/

namespace FeatureGate.Resolver

/-- Warn if a definition expires within the warning window. -/
def warnOfExpiry (resolver : Resolver) (definition : Definition) : Action Unit := do
  if let some days := resolver.config.warningDays then
    if let some expiration := definition.expiration then
      let now ← ask .clock
      if expiration.isExpiringSoonAt now days then
        ask (.warn (.expiresSoon definition.name))

/-- **Register a definition.** -/
def define (resolver : Resolver) (definition : Definition) : Action Unit := do
  resolver.warnOfExpiry definition
  let registry ← ofExcept ((← get).registry.define definition)
  modify fun work =>
    { work with registry, cache := work.cache.forgetFeature definition.name }

/-- **Register a variant feature** with a table that is checked first. -/
def defineVariant (resolver : Resolver) (feature : String)
    (weights : List (String × UInt32)) : Action Unit := do
  let table ← ofExcept (VariantTable.ofList feature weights)
  resolver.define (.ofRule feature (.variants table))

/-- The names of the defined features, in increasing order. -/
def defined : Action (List String) := return (← get).registry.defined

/-- The definitions that expire within some days, in increasing order of
name. -/
def expiringSoon (days : Int) : Action (List Definition) := do
  let now ← ask .clock
  return (← get).registry.expiringWithin now days

end FeatureGate.Resolver
