import FeatureGate.Resolver.Resolve

/-!
# Writes

Every write goes to the store first. Only if the store took it do the cached
values of the feature go, and only then is it reported. An active value that was
written is kept in the cache at once; an inactive one is not, since a group may
override it.
-/

namespace FeatureGate.Resolver

/-- **Store a value for one context.** -/
def set (resolver : Resolver) (feature : String) (context : Context) (value : Payload) :
    Action Unit := do
  let key ← resolver.contextKey context
  askStore (.set feature key value)
  modifyCache (·.forgetFeature feature)
  let written := FeatureValue.ofPayload value
  if written.isActive then
    modifyCache (·.put feature key written)
  resolver.emit (.updated feature key value)

/-- Switch a feature on for one context. -/
def activate (resolver : Resolver) (feature : String) (context : Context) : Action Unit :=
  resolver.set feature context (.bool true)

/-- Switch a feature off for one context. -/
def deactivate (resolver : Resolver) (feature : String) (context : Context) : Action Unit :=
  resolver.set feature context (.bool false)

/-- Switch a feature on for a group; its members inherit it. -/
def activateForGroup (resolver : Resolver) (feature group : String) : Action Unit :=
  resolver.activate feature (.group group)

/-- **Overwrite the value of every context that has one stored.** -/
def setForAllContexts (resolver : Resolver) (feature : String) (value : Payload) :
    Action Unit := do
  askStore (.setForAll feature value)
  modifyCache (·.forgetFeature feature)
  resolver.emit (.updatedForAll feature value)

/-- Switch a feature on for everyone who has a value stored. -/
def activateForEveryone (resolver : Resolver) (feature : String) : Action Unit :=
  resolver.setForAllContexts feature (.bool true)

/-- Switch a feature off for everyone who has a value stored. -/
def deactivateForEveryone (resolver : Resolver) (feature : String) : Action Unit :=
  resolver.setForAllContexts feature (.bool false)

/-- **Remove the stored value of one context.** -/
def delete (resolver : Resolver) (feature : String) (context : Context) : Action Unit := do
  let key ← resolver.contextKey context
  askStore (.delete feature key)
  modifyCache (·.forgetFeature feature)
  resolver.emit (.deleted feature key)

/-- **Remove the stored values** of the features listed, or of all features. -/
def purge (resolver : Resolver) (features : Option (List String)) : Action Unit := do
  askStore (.purge features)
  match features with
  | some names => modifyCache fun cache => names.foldl Cache.forgetFeature cache
  | none => modifyCache fun _ => .empty
  resolver.emit (.purged features)

/-- **Purge the features that have expired**; their names. -/
def purgeExpired (resolver : Resolver) : Action (List String) := do
  let now ← ask .clock
  let expired := (← get).registry.expired now
  if !expired.isEmpty then
    resolver.purge (some expired)
  return expired

/-- The names of the features that have stored values. -/
def stored : Action (List String) := askStore .listStored

/-- Forget every value resolved so far. -/
def flushCache : Action Unit := modifyCache fun _ => .empty

/-- **Change the ambient scope.** If it really changes, every cached value goes:
the keys were made under the old one. -/
def setAmbientScope (scope : Option Scope) : Action Unit := do
  let same := match (← get).ambient, scope with
    | some old, some new => old.equal new
    | none, none => true
    | _, _ => false
  if !same then
    modify fun work => { work with ambient := scope, cache := .empty }

end FeatureGate.Resolver
