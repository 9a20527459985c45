import FeatureGate.Proofs.Caching.Mirror
import FeatureGate.Proofs.Correlation

/-!
# Reads are transparent

An action is *transparent* if in states that mirror each other it gives the same
result, and leaves states behind that mirror each other again: it respects mirrors
(`Respects`). So in the end transparency is proved of the one action that looks into
the cache, the resolution of an open feature (`Transparent.resolveOpen`), and of the
one that fills it from rows that were read before (`Transparent.settle`).

All of this is for contexts whose keys are not those of groups.
-/

namespace FeatureGate.Resolver

open Store (Rows)

/-- **Settle pairs** of features and contexts with what rows hold for them. -/
def settleAll (resolver : Resolver) (rows : Rows) (pairs : List (String × Context × String)) :
    Action Unit :=
  pairs.forM fun pair => resolver.settle pair.1 pair.2.1 pair.2.2 (rows.get? pair.1 pair.2.2)

/-- **An action that does not show what is cached.** -/
def Transparent {α : Type} (resolver : Resolver) (membership : Membership)
    (origin : State Rows) (action : Action α) : Prop :=
  ∀ s t, resolver.Mirrors membership origin s t →
    (action.perform Store.memory membership s).1 = (action.perform Store.memory membership t).1
      ∧ resolver.Mirrors membership origin (action.perform Store.memory membership s).2
          (action.perform Store.memory membership t).2

/-- Mirrors have nothing to do with frames and reports. -/
theorem Mirrors.correlated (resolver : Resolver) (membership : Membership)
    (origin : State Rows) : Correlated (resolver.Mirrors membership origin) where
  now h := h.twin.now.symm
  guard h := h.twin.guard.symm
  registry h := h.twin.registry.symm
  within guard h := h.within guard
  quiet h hs ht := h.of_quiet hs ht

namespace Transparent

variable {resolver : Resolver} {membership : Membership} {origin : State Rows}

/-! ## Resolution -/

variable {feature key : String} {context : Context}

/-- **Resolving an open feature is transparent**: a cached value is the one that
would come out, and a first write happens in both states or in neither. -/
theorem resolveOpen (hapart : resolver.IsApart membership origin.work.ambient key)
    (feature : String) (context : Context) :
    resolver.Transparent membership origin
      (resolver.resolveOpen feature context key (origin.work.registry.get? feature)) := by
  intro s t h
  have hregistry := h.later.registry
  have hregistry' := h.twin.registry.trans hregistry
  cases hown : persisted? s.work.registry s.world.store feature key with
  | some own =>
    obtain ⟨s', hleft, hs, hfaithful⟩ := h.left.exists_perform_resolveOpen hown context
    obtain ⟨t', hright, ht, hfaithful'⟩ := h.right.exists_perform_resolveOpen
      (by rw [h.twin.registry, h.twin.store, hown]) context
    rw [hregistry] at hleft
    rw [hregistry', h.twin.store, h.twin.ambient] at hright
    rw [hleft, hright]
    exact ⟨rfl, h.of_twins hs ht hfaithful hfaithful'⟩
  | none =>
    -- neither has a row, so both write the first one
    obtain ⟨hrow, definition, hdef⟩ := eq_none_of_persisted?_eq_none hown
    have hmirrors := h.firstWritten hrow hdef (h.later.ambient ▸ hapart) context
    obtain ⟨s', hleft, hs, hfaithful⟩ := h.left.exists_perform_resolveOpen_defined hrow hdef
      (h.later.ambient ▸ hapart) context
    obtain ⟨t', hright, ht, hfaithful'⟩ := h.right.exists_perform_resolveOpen_defined
      (by rw [h.twin.store, hrow]) (by rw [h.twin.registry, hdef])
      (by rw [h.twin.ambient, h.later.ambient]; exact hapart) context
    rw [hregistry] at hleft
    rw [hregistry', hmirrors.twin.store, h.twin.closures, h.twin.ambient] at hright
    rw [hleft, hright]
    exact ⟨rfl, hmirrors.of_twins hs ht hfaithful hfaithful'⟩

section Reads

/-- **A context that reads may be given**: its key is not the one of a group. -/
abbrev Admits (resolver : Resolver) (membership : Membership) (origin : State Rows)
    (context : Context) : Prop :=
  resolver.IsApart membership origin.work.ambient
    (resolver.keyUnder origin.work.ambient context)

/-- **Open features are resolved alike**, whatever is cached. -/
theorem opens (hapart : Admits resolver membership origin context) :
    Respects.Opens Store.memory membership (resolver.Mirrors membership origin) resolver context
      fun _ => True where
  toCorrelated := Mirrors.correlated ..
  key h := by rw [h.twin.ambient]
  required _ _ _ _ _ := trivial
  resolveOpen {feature _ _} _ h := by
    rw [h.later.ambient, h.later.registry]
    exact resolveOpen hapart feature context

/-- **Resolving a feature is transparent.** -/
theorem resolve (hapart : Admits resolver membership origin context) (feature : String) :
    resolver.Transparent membership origin (resolver.resolve feature context) :=
  (opens hapart).resolve trivial

/-! ## Loading -/

/-- A value may be kept if it comes out without the cache ever after. -/
theorem put {value : FeatureValue}
    (hvalue : ∀ s : State Rows, origin.Later s →
      resolver.Recurs membership s feature key value) :
    resolver.Transparent membership origin (modifyCache (·.put feature key value)) := by
  intro s t h
  rw [Action.perform_modifyCache, Action.perform_modifyCache]
  have hleft := h.left.put (hvalue s h.later)
  have hright := h.right.put (hvalue t (h.later.of_twin h.twin))
  exact ⟨rfl, h.of_twins (.recached s _) (.recached t _) hleft hright⟩

theorem forget : resolver.Transparent membership origin
    (modifyCache (·.forget feature key)) := by
  intro s t h
  rw [Action.perform_modifyCache, Action.perform_modifyCache]
  exact ⟨rfl, h.of_twins (.recached s _) (.recached t _) (h.left.forget feature key)
    (h.right.forget feature key)⟩

/-- Settling a pair is transparent, if what was read for it is a row of the
origin: such a row is there still. -/
theorem settle (hapart : Admits resolver membership origin context) {feature : String}
    {stored : Option Payload}
    (hstored : ∀ payload, stored = some payload → origin.world.store.get? feature
      (resolver.keyUnder origin.work.ambient context) = some payload) :
    resolver.Transparent membership origin (resolver.settle feature context
      (resolver.keyUnder origin.work.ambient context) stored) := by
  rw [Resolver.settle]
  split
  · rename_i payload hactive
    obtain ⟨row, rfl, hrow⟩ := Option.map_eq_some_iff.mp hactive
    refine put fun s hlater => ⟨.active payload, ?_, rfl⟩
    rw [← hrow]
    unfold persisted?
    rw [hlater.row (hstored row rfl)]
  · exact Respects.bind forget fun _ =>
      Respects.bind (resolve hapart feature) fun _ => Respects.pure _

/-- **Settling pairs** is transparent, with the rows of the origin. -/
theorem settleAll {pairs : List (String × Context × String)}
    (hpairs : ∀ pair ∈ pairs, Admits resolver membership origin pair.2.1
      ∧ pair.2.2 = resolver.keyUnder origin.work.ambient pair.2.1) :
    resolver.Transparent membership origin (resolver.settleAll origin.world.store pairs) := by
  refine Respects.forM fun pair hpair => ?_
  obtain ⟨hapart, hkey⟩ := hpairs pair hpair
  rw [hkey]
  exact settle hapart fun payload hpayload => hpayload

end Reads

end Transparent

@[simp] theorem Action.perform_getMany_memory {membership : Membership}
    (pairs : List (String × String)) (s : State Rows) :
    (askStore (.getMany pairs)).perform Store.memory membership s
      = (.ok (pairs.map fun (feature, key) => s.world.store.get? feature key), s) :=
  Action.perform_askStore_memory _ s

/-- **The pairs that are loaded** from a state on. -/
def State.toLoad (resolver : Resolver) (skipCached : Bool) (features : List String)
    (contexts : List Context) (s : State Rows) : List (String × Context × String) :=
  loadPairs s.work.cache skipCached features
    (contexts.map fun context => (context, resolver.keyUnder s.work.ambient context))

/-- A pair to load is of a context that was given, with its key. -/
theorem State.exists_of_mem_toLoad {resolver : Resolver} {skipCached : Bool}
    {features : List String} {contexts : List Context} {s : State Rows}
    {pair : String × Context × String}
    (h : pair ∈ s.toLoad resolver skipCached features contexts) :
    pair.2.1 ∈ contexts ∧ pair.2.2 = resolver.keyUnder s.work.ambient pair.2.1 := by
  obtain ⟨context, hcontext, heq⟩ := List.mem_map.mp (exists_of_mem_loadPairs h)
  rw [← heq]
  exact ⟨hcontext, rfl⟩

/-- A pair that was given is loaded, or skipped because it is cached. -/
theorem State.mem_toLoad_or_contains {resolver : Resolver} (skipCached : Bool)
    {features : List String} {contexts : List Context} {s : State Rows} {feature : String}
    {context : Context} (hfeature : feature ∈ features) (hcontext : context ∈ contexts) :
    (feature, context, resolver.keyUnder s.work.ambient context)
        ∈ s.toLoad resolver skipCached features contexts
      ∨ s.work.cache.contains feature (resolver.keyUnder s.work.ambient context) := by
  by_cases hskip : skipCached
    && s.work.cache.contains feature (resolver.keyUnder s.work.ambient context)
  · exact .inr (Bool.and_eq_true_iff.mp hskip).2
  · refine .inl (List.mem_flatMap.mpr ⟨feature, hfeature, List.mem_filterMap.mpr ?_⟩)
    exact ⟨_, List.mem_map_of_mem hcontext, if_neg hskip⟩

/-- **Loading** is to settle the pairs with what the rows hold for them. -/
theorem Action.perform_loadWith {membership : Membership} (resolver : Resolver)
    (skipCached : Bool) (features : List String) (contexts : List Context) (s : State Rows) :
    (resolver.loadWith skipCached features contexts).perform Store.memory membership s
      = (resolver.settleAll s.world.store
          (s.toLoad resolver skipCached features contexts)).perform Store.memory membership s := by
  rw [Resolver.loadWith, perform_bind, perform_get, andThen_ok]
  show Action.perform _ _ (if (s.toLoad resolver skipCached features contexts).isEmpty
    then _ else _) s = _
  rw [perform_ite]
  split
  · rename_i hempty
    rw [List.isEmpty_iff.mp hempty]
    rfl
  · rw [perform_bind, perform_getMany_memory, andThen_ok, List.map_map]
    have hzip : ∀ pairs : List (String × Context × String),
        (pairs.map fun pair => (pair, s.world.store.get? pair.1 pair.2.2))
          = pairs.zip (pairs.map fun pair => s.world.store.get? pair.1 pair.2.2) :=
      fun pairs => List.zip_of_prod (by simp [Function.comp_def]) (by simp)
    show Action.perform _ _ (forM ((s.toLoad resolver skipCached features contexts).zip
      ((s.toLoad resolver skipCached features contexts).map _)) _) s = _
    exact congrArg (fun action : Action Unit => action.perform _ _ s)
      ((congrArg (forM · _) (hzip _).symm).trans List.forM_map)

/-- **Loading is transparent**, in states that mirror each other now. -/
theorem Mirrors.load {resolver : Resolver} {membership : Membership} {s t : State Rows}
    (h : resolver.Mirrors membership s s t) {contexts : List Context}
    (hapart : ∀ context ∈ contexts, Transparent.Admits resolver membership s context)
    (features : List String) :
    ((resolver.load features contexts).perform Store.memory membership s).1
        = ((resolver.load features contexts).perform Store.memory membership t).1
      ∧ resolver.Mirrors membership s
          ((resolver.load features contexts).perform Store.memory membership s).2
          ((resolver.load features contexts).perform Store.memory membership t).2 := by
  -- both read the same rows for the same pairs, so it is the same settling in both
  have hpairs : t.toLoad resolver false features contexts
      = s.toLoad resolver false features contexts := by
    unfold State.toLoad
    rw [h.twin.ambient]
    rfl
  rw [Resolver.load, Action.perform_loadWith, Action.perform_loadWith, hpairs, h.twin.store]
  refine Transparent.settleAll (fun pair hpair => ?_) s t h
  obtain ⟨hcontext, hkey⟩ := State.exists_of_mem_toLoad hpair
  exact ⟨hapart _ hcontext, hkey⟩

end FeatureGate.Resolver
