import FeatureGate.Resolver.Resolve

/-!
# Eager loading

The values of many features for many contexts are read by one call of the
store, feature by feature. An active stored value is kept as it is. Any other
pair is resolved in the ordinary way, since a group may still override an
inactive value, and an absent one has to be computed.
-/

namespace FeatureGate.Resolver

/-- The pairs of a feature and a context to load, with the key of the context:
all of them, or those that are not cached. -/
def loadPairs (cache : Cache) (skipCached : Bool) (features : List String)
    (contexts : List (Context × String)) : List (String × Context × String) :=
  features.flatMap fun feature => contexts.filterMap fun (context, key) =>
    if skipCached && cache.contains feature key then none
    else some (feature, context, key)

/-- A pair to load is of a context that was given, with its key. -/
theorem exists_of_mem_loadPairs {cache : Cache} {skipCached : Bool} {features : List String}
    {contexts : List (Context × String)} {pair : String × Context × String}
    (h : pair ∈ loadPairs cache skipCached features contexts) : pair.2 ∈ contexts := by
  obtain ⟨feature, -, hpair⟩ := List.mem_flatMap.mp h
  obtain ⟨⟨context, key⟩, hmem, hsome⟩ := List.mem_filterMap.mp hpair
  rw [Option.ite_none_left_eq_some] at hsome
  rw [← Option.some.inj hsome.2]
  exact hmem

/-- Keep a loaded value if it is active; resolve the pair otherwise. -/
def settle (resolver : Resolver) (feature : String) (context : Context) (key : String)
    (stored : Option Payload) : Action Unit := do
  match stored.map FeatureValue.ofPayload with
  | some (.active payload) => modifyCache (·.put feature key (.active payload))
  | _ =>
    modifyCache (·.forget feature key)
    let _ ← resolver.resolve feature context

/-- **Load pairs of features and contexts**, with one batched read if there are
any. -/
def loadWith (resolver : Resolver) (skipCached : Bool) (features : List String)
    (contexts : List Context) : Action Unit := do
  let work ← get
  let keyed := contexts.map fun context =>
    (context, resolver.keyUnder work.ambient context)
  let pairs := loadPairs work.cache skipCached features keyed
  if pairs.isEmpty then return
  let stored ← askStore (.getMany (pairs.map fun (feature, _, key) => (feature, key)))
  (pairs.zip stored).forM fun ((feature, context, key), payload) =>
    resolver.settle feature context key payload

/-- Load the values of features for contexts into the cache. -/
def load (resolver : Resolver) : List String → List Context → Action Unit :=
  resolver.loadWith false

/-- Load the values that are not cached. -/
def loadMissing (resolver : Resolver) : List String → List Context → Action Unit :=
  resolver.loadWith true

end FeatureGate.Resolver
