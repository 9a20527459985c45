import FeatureGate.Proofs.Running
import FeatureGate.Resolver.Define
import FeatureGate.Resolver.Write

/-!
# What writes come to

Each operation that writes, run over a store in memory: its result, and the
state after it. A write replaces rows and cached values (`State.rewritten`) and
reports the change, in this order (`overwrite`); a definition replaces the registry;
a new ambient scope takes every cached value with it.
-/

namespace FeatureGate

/-- **What is cached after a value was written**: nothing of the feature but the
value itself, if it is active. -/
def Cache.written (cache : Cache) (feature key : String) (value : Payload) : Cache :=
  if (FeatureValue.ofPayload value).isActive then
    (cache.forgetFeature feature).put feature key (.ofPayload value)
  else cache.forgetFeature feature

/-- **What is cached after a purge.** -/
def Cache.purged (cache : Cache) : Option (List String) → Cache
  | some names => names.foldl Cache.forgetFeature cache
  | none => .empty

theorem Cache.get?_foldl_forgetFeature (cache : Cache) (names : List String)
    (feature key : String) :
    (names.foldl Cache.forgetFeature cache).get? feature key
      = if feature ∈ names then none else cache.get? feature key := by
  induction names generalizing cache with
  | nil => simp
  | cons name rest ih =>
    rw [List.foldl_cons, ih, Cache.get?_forgetFeature]
    by_cases hrest : feature ∈ rest
    · simp [hrest]
    · by_cases hname : name = feature
      · simp [hname]
      · simp [hrest, hname, Ne.symm hname]

theorem Cache.get?_of_forgetFeature {cache : Cache} {f feature key : String}
    {value : FeatureValue} (h : (cache.forgetFeature f).get? feature key = some value) :
    cache.get? feature key = some value := by
  rw [Cache.get?_forgetFeature] at h
  exact (Option.ite_none_left_eq_some.mp h).2

/-- A value cached after a write is what was written, or was cached before. -/
theorem Cache.get?_written {cache : Cache} {f k feature key : String} {value : Payload}
    {kept : FeatureValue} (h : (cache.written f k value).get? feature key = some kept) :
    cache.get? feature key = some kept ∨ f = feature ∧ k = key ∧ kept = .ofPayload value := by
  unfold Cache.written at h
  split at h
  · rw [Cache.get?_put] at h
    split at h
    · rename_i hat
      exact .inr ⟨hat.1, hat.2, (Option.some.inj h).symm⟩
    · exact .inl (get?_of_forgetFeature h)
  · exact .inl (get?_of_forgetFeature h)

/-- What is cached of the row that was written: its value, if it is active. -/
theorem Cache.get?_written_self (cache : Cache) (feature key : String) (value : Payload) :
    (cache.written feature key value).get? feature key
      = if (FeatureValue.ofPayload value).isActive then some (.ofPayload value) else none := by
  unfold Cache.written
  split
  · rw [Cache.get?_put, if_pos ⟨rfl, rfl⟩]
  · rw [Cache.get?_forgetFeature, if_pos rfl]

namespace Resolver

open Store (Rows)

/-- **The state with other values cached and other rows.** -/
def State.rewritten (s : State Rows) (cache : Cache) (rows : Rows) : State Rows :=
  ⟨{ s.work with cache }, { s.world with store := rows }⟩

/-- **The state after a definition** was registered. -/
def State.defined (s : State Rows) (definition : Definition) (registry : Registry) :
    State Rows :=
  ⟨{ s.work with registry, cache := s.work.cache.forgetFeature definition.name }, s.world⟩

/-- **The state with another ambient scope**, and nothing cached. -/
def State.scoped (s : State Rows) (scope : Option Scope) : State Rows :=
  ⟨{ s.work with ambient := scope, cache := .empty }, s.world⟩

/-- Whether a scope is the ambient one already. -/
def isAmbient (ambient scope : Option Scope) : Bool :=
  match ambient, scope with
  | some old, some new => old.equal new
  | none, none => true
  | _, _ => false

/-- **A write**: a call of the store, then a change of the cache, then a report. -/
def overwrite (resolver : Resolver) (call : Store.Call) (change : Cache → Cache)
    (event : Event) : Action Unit := do
  let _ ← askStore call
  modifyCache change
  resolver.emit event

section Overwrite

variable (resolver : Resolver) (feature : String) (context : Context) (value : Payload)

theorem set_eq_overwrite :
    resolver.set feature context value = resolver.contextKey context >>= fun key =>
      resolver.overwrite (.set feature key value) (·.written feature key value)
        (.updated feature key value) := by
  unfold Resolver.set overwrite Cache.written
  by_cases hactive : (FeatureValue.ofPayload value).isActive
  · simp only [hactive, if_true]
    rfl
  · simp only [hactive]
    rfl

theorem setForAllContexts_eq_overwrite :
    resolver.setForAllContexts feature value = resolver.overwrite (.setForAll feature value)
      (·.forgetFeature feature) (.updatedForAll feature value) := rfl

theorem delete_eq_overwrite :
    resolver.delete feature context = resolver.contextKey context >>= fun key =>
      resolver.overwrite (.delete feature key) (·.forgetFeature feature)
        (.deleted feature key) := rfl

theorem purge_eq_overwrite (features : Option (List String)) :
    resolver.purge features
      = resolver.overwrite (.purge features) (·.purged features) (.purged features) := by
  cases features <;> rfl

end Overwrite

namespace Action

variable {membership : Membership} (resolver : Resolver) (s : State Rows)

/-- **A write** that the store in memory takes. -/
theorem perform_overwrite {call : Store.Call} {answer : call.Answer}
    (hanswer : (s.world.store.answer call).1 = .ok answer) (change : Cache → Cache)
    (event : Event) :
    (resolver.overwrite call change event).perform Store.memory membership s
      = (.ok (), (s.rewritten (change s.work.cache) (s.world.store.answer call).2).told
          resolver event) := by
  rw [overwrite, perform_bind, perform_askStore_memory, hanswer]
  show Action.perform _ _ (modifyCache _ >>= fun _ => resolver.emit _ : Action Unit) _ = _
  rw [perform_bind, perform_modifyCache, andThen_ok, perform_emit]
  rfl

theorem perform_set (feature : String) (context : Context) (value : Payload) :
    (resolver.set feature context value).perform Store.memory membership s
      = (.ok (), (s.rewritten
          (s.work.cache.written feature (resolver.keyUnder s.work.ambient context) value)
          (s.world.store.insert ⟨feature, resolver.keyUnder s.work.ambient context⟩
            value)).told resolver
          (.updated feature (resolver.keyUnder s.work.ambient context) value)) := by
  rw [set_eq_overwrite, perform_bind, perform_contextKey, andThen_ok, perform_overwrite _ _ rfl]
  rfl

theorem perform_setForAllContexts (feature : String) (value : Payload) :
    (resolver.setForAllContexts feature value).perform Store.memory membership s
      = (.ok (), (s.rewritten (s.work.cache.forgetFeature feature)
          (s.world.store.setForAll feature value)).told resolver
          (.updatedForAll feature value)) := by
  rw [setForAllContexts_eq_overwrite, perform_overwrite _ _ rfl]
  rfl

theorem perform_delete (feature : String) (context : Context) :
    (resolver.delete feature context).perform Store.memory membership s
      = (.ok (), (s.rewritten (s.work.cache.forgetFeature feature)
          (s.world.store.erase ⟨feature, resolver.keyUnder s.work.ambient context⟩)).told
          resolver (.deleted feature (resolver.keyUnder s.work.ambient context))) := by
  rw [delete_eq_overwrite, perform_bind, perform_contextKey, andThen_ok,
    perform_overwrite _ _ rfl]
  rfl

theorem perform_purge (features : Option (List String)) :
    (resolver.purge features).perform Store.memory membership s
      = (.ok (), (s.rewritten (s.work.cache.purged features)
          (s.world.store.purge features)).told resolver (.purged features)) := by
  rw [purge_eq_overwrite, perform_overwrite _ _ rfl]
  rfl

theorem perform_purgeExpired :
    resolver.purgeExpired.perform Store.memory membership s
      = (.ok (s.work.registry.expired s.world.now),
          if (s.work.registry.expired s.world.now).isEmpty then s
          else ((resolver.purge (some (s.work.registry.expired s.world.now))).perform
            Store.memory membership s).2) := by
  rw [purgeExpired, perform_bind, perform_ask_clock, andThen_ok, perform_bind, perform_get,
    andThen_ok]
  dsimp only
  cases (s.work.registry.expired s.world.now).isEmpty with
  | true => rfl
  | false =>
    show Action.perform _ _ (resolver.purge _ >>= fun _ => pure _ : Action (List String)) _ = _
    rw [perform_bind, perform_purge]
    rfl

/-- A warning is all that registering a definition does before it is checked. -/
theorem exists_perform_warnOfExpiry (definition : Definition) :
    ∃ t, (resolver.warnOfExpiry definition).perform Store.memory membership s = (.ok (), t)
      ∧ s.Quiet t := by
  unfold warnOfExpiry
  cases resolver.config.warningDays with
  | none => exact ⟨s, rfl, .refl s⟩
  | some days =>
    cases definition.expiration with
    | none => exact ⟨s, rfl, .refl s⟩
    | some expiration =>
      dsimp only
      rw [perform_bind, perform_ask_clock, andThen_ok, perform_ite]
      split
      · exact ⟨_, perform_ask_warn .., .warned s _⟩
      · exact ⟨s, rfl, .refl s⟩

/-- **Registering a definition** that is refused changes nothing. -/
theorem exists_perform_define (definition : Definition) :
    ∃ t, s.Quiet t ∧ (resolver.define definition).perform Store.memory membership s
      = match s.work.registry.define definition with
        | .error e => (.error e, t)
        | .ok registry => (.ok (), t.defined definition registry) := by
  obtain ⟨t, hwarn, hquiet⟩ := @exists_perform_warnOfExpiry membership resolver s definition
  refine ⟨t, hquiet, ?_⟩
  rw [define, perform_bind, hwarn, andThen_ok, perform_bind, perform_get, andThen_ok,
    hquiet.work, perform_bind, perform_ofExcept]
  cases s.work.registry.define definition with
  | error e => rfl
  | ok registry => rfl

theorem perform_defineVariant (feature : String) (weights : List (String × UInt32)) :
    (resolver.defineVariant feature weights).perform Store.memory membership s
      = match VariantTable.ofList feature weights with
        | .error e => (.error e, s)
        | .ok table => (resolver.define (.ofRule feature (.variants table))).perform
            Store.memory membership s := by
  rw [defineVariant, perform_bind, perform_ofExcept]
  cases VariantTable.ofList feature weights with
  | error e => rfl
  | ok table => rfl

theorem perform_setAmbientScope (scope : Option Scope) :
    (setAmbientScope scope).perform Store.memory membership s
      = (.ok (), if isAmbient s.work.ambient scope then s else s.scoped scope) := by
  rw [setAmbientScope, perform_bind, perform_get, andThen_ok]
  show Action.perform _ _ (if !isAmbient s.work.ambient scope then _ else _ : Action Unit) s = _
  cases isAmbient s.work.ambient scope with
  | true => rfl
  | false => rfl

theorem perform_flushCache :
    flushCache.perform Store.memory membership s
      = (.ok (), s.rewritten .empty s.world.store) := rfl

theorem perform_stored :
    stored.perform Store.memory membership s = (.ok s.world.store.features, s) :=
  perform_askStore_memory _ s

end Action

end Resolver

end FeatureGate
