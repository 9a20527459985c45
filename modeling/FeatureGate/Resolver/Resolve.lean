import FeatureGate.Resolver.Basic

/-!
# Resolution

A feature is resolved for a context in this order.

1. An expired feature is inactive.
2. The features it requires are resolved one after another. The first that is
   not active makes the feature inactive. So does a cycle: a feature that is
   required while its own requirements are being resolved.
3. A value in the cache is the answer.
4. The stored value is read. If there is none, a feature without a definition
   is undefined; otherwise its first payload is computed and stored. If another
   writer was faster, the row is read once more.
5. A value that is not active is replaced by the first active one stored for a
   group that the context belongs to and the feature is granted to.
6. The value is kept in the cache.

What the first two steps answer is not kept: they are gone through again each
time.

The recursion through requirements is left open in `resolveStep` and closed in
`resolveNested`, which nests it a given number of times above a floor. Every
nested call but the innermost has a frame of its own in flight, and only
features with requirements have frames, so no more calls are ever nested than
there are such features, and one; `resolve` allows for that many, and its floor
is never reached.
-/

namespace FeatureGate.Resolver

/-! ## Reading and first writes -/

/-- The first payload of a feature for a context. -/
def firstPayload (definition : Definition) (context : Context) (key : String) :
    Action Payload := do
  match definition.firstPayload key with
  | .inl closure => ask (.compute closure context)
  | .inr payload => return payload

/-- **Read the stored value, or compute and store the first one.** -/
def readOrCompute (resolver : Resolver) (feature : String) (context : Context)
    (key : String) (definition : Option Definition) : Action FeatureValue := do
  if let some payload ← askStore (.get feature key) then
    return .ofPayload payload
  match definition with
  | none =>
    resolver.emit (.unknownFeatureResolved feature key)
    return .undefined
  | some definition =>
    let payload ← firstPayload definition context key
    askStore (.insert feature key payload)
    return .ofPayload payload

/-- **Read or compute, and once more after a conflict.** The second time the
value of the faster writer is read. -/
def readOrInitialize (resolver : Resolver) (feature : String) (context : Context)
    (key : String) (definition : Option Definition) : Action FeatureValue := do
  match ← attempt (resolver.readOrCompute feature context key definition) with
  | .ok value => return value
  | .error error =>
    if error.isConflict then
      ask (.warn (.concurrentFirstWrite feature key))
      resolver.emit (.raceRetried feature key)
      resolver.readOrCompute feature context key definition
    else throw error

/-! ## Groups -/

/-- The first active value stored for one of the groups listed. -/
def firstGroupValue (resolver : Resolver) (feature : String) :
    List String → Action (Option FeatureValue)
  | [] => return none
  | group :: rest => do
    match ← ask (.featuresIn group) with
    | .error error => throw error
    | .ok features =>
      if features.contains feature then
        let key ← resolver.contextKey (.group group)
        if let some payload ← askStore (.get feature key) then
          let value := FeatureValue.ofPayload payload
          if value.isActive then return some value
      resolver.firstGroupValue feature rest

/-- **The value a context inherits from its groups**, if there is one. -/
def groupValue (resolver : Resolver) (feature key : String) :
    Action (Option FeatureValue) := do
  if resolver.consultsGroups then
    match ← ask (.groupsFor key) with
    | .error error => throw error
    | .ok groups => resolver.firstGroupValue feature groups
  else return none

theorem groupValue_of_no_groups {resolver : Resolver} (hgroups : resolver.consultsGroups = false)
    (feature key : String) : resolver.groupValue feature key = pure none := by
  unfold groupValue
  rw [hgroups]
  rfl

/-! ## Requirements -/

/-- Put the frame of a feature in flight; whether it was not already. -/
def enter (frame : String) : Action Bool := do
  match (← get).guard.enter? frame with
  | some guard =>
    modify fun work => { work with guard }
    return true
  | none => return false

/-- Take the innermost frame off. -/
def leave : Action Unit :=
  modify fun work => { work with guard := work.guard.leave }

/-- Whether all features listed are active, found out one after another until
one is not. -/
def allOpen (again : String → Context → Action FeatureValue) (context : Context) :
    List String → Action Bool
  | [] => return true
  | required :: rest => do
    if (← again required context).isActive then allOpen again context rest
    else return false

/-- **Whether a defined feature may be active at all**: it has not expired, and
the features it requires are active. The frame in flight is taken off however
the requirements come out. -/
def gateOpen (resolver : Resolver) (again : String → Context → Action FeatureValue)
    (definition : Definition) (feature : String) (context : Context) (key : String) :
    Action Bool := do
  let now ← ask .clock
  if definition.isExpiredAt now then return false
  if definition.required.isEmpty then return true
  if ← enter (Guard.frame feature key) then
    let outcome ← attempt (allOpen again context definition.required)
    leave
    ofExcept outcome
  else
    ask (.warn (.dependencyCycle feature key))
    resolver.emit (.cycleDetected feature (← get).guard.frames)
    return false

/-! ## Resolving -/

/-- The value of a feature once its gate is open: from the cache, or read,
completed by the groups and kept. -/
def resolveOpen (resolver : Resolver) (feature : String) (context : Context) (key : String)
    (definition : Option Definition) : Action FeatureValue := do
  if let some value := (← get).cache.get? feature key then
    return value
  let own ← resolver.readOrInitialize feature context key definition
  let value ←
    if own.isActive then pure own
    else do
      let inherited ← resolver.groupValue feature key
      pure (inherited.getD own)
  modifyCache (·.put feature key value)
  if definition.isSome then
    resolver.emit (.resolved feature key value)
  return value

/-- **Resolve a feature**, given how to resolve the features it requires. -/
def resolveStep (resolver : Resolver) (again : String → Context → Action FeatureValue)
    (feature : String) (context : Context) : Action FeatureValue := do
  let key ← resolver.contextKey context
  let definition := (← get).registry.get? feature
  let isOpen ← match definition with
    | none => pure true
    | some definition => resolver.gateOpen again definition feature context key
  if isOpen then resolver.resolveOpen feature context key definition
  else return .inactive

/-- **Resolution nested** at most `depth` calls deep, above a floor. -/
def resolveNested (resolver : Resolver) (floor : String → Context → Action FeatureValue) :
    (depth : Nat) → String → Context → Action FeatureValue
  | 0 => floor
  | depth + 1 => resolver.resolveStep (resolver.resolveNested floor depth)

/-- **Resolve a feature for a context.** -/
def resolve (resolver : Resolver) (feature : String) (context : Context) :
    Action FeatureValue := do
  modify fun work => { work with guard := .empty }
  let depth := (← get).registry.gatedCount + 1
  resolver.resolveNested (fun _ _ => return .inactive) depth feature context

/-! ## Queries -/

/-- Resolve a feature for the default context. -/
def resolveDefault (resolver : Resolver) (feature : String) : Action FeatureValue :=
  match resolver.defaultContext with
  | some context => resolver.resolve feature context
  | none => throw .missingContext

/-- **The variant of a feature for a context.** A stored assignment counts more
than the bucket. -/
def resolveVariant (resolver : Resolver) (feature : String) (context : Context) :
    Action String := do
  let definition := (← get).registry.get? feature
  if (definition.bind Definition.table?).isNone then
    throw (.notAVariant feature)
  match (← resolver.resolve feature context).text? with
  | some variant => return variant
  | none => throw (.variantUnavailable feature)

/-- Whether a feature is active for a context. -/
def isActive (resolver : Resolver) (feature : String) (context : Context) : Action Bool :=
  return (← resolver.resolve feature context).isActive

/-- Whether a feature is not active for a context. -/
def isInactive (resolver : Resolver) (feature : String) (context : Context) : Action Bool :=
  return (← resolver.resolve feature context).isInactive

/-- Whether every feature listed is active, found out until one is not. -/
def allAreActive (resolver : Resolver) (features : List String) (context : Context) :
    Action Bool :=
  match features with
  | [] => return true
  | feature :: rest => do
    if ← resolver.isActive feature context then resolver.allAreActive rest context
    else return false

/-- Whether a feature listed is active, found out until one is. -/
def someAreActive (resolver : Resolver) (features : List String) (context : Context) :
    Action Bool :=
  match features with
  | [] => return false
  | feature :: rest => do
    if ← resolver.isActive feature context then return true
    else resolver.someAreActive rest context

/-- **The values of the features listed**, by name. -/
def values (resolver : Resolver) (features : List String) (context : Context) :
    Action (Std.ExtTreeMap String FeatureValue) := do
  let resolved ← features.mapM fun feature =>
    return (feature, ← resolver.resolve feature context)
  return resolved.foldl (fun map (feature, value) => map.insert feature value) ∅

/-- The values of all defined features. -/
def all (resolver : Resolver) (context : Context) :
    Action (Std.ExtTreeMap String FeatureValue) := do
  resolver.values (← get).registry.defined context

end FeatureGate.Resolver
