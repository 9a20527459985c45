import FeatureGate.Proofs.Caching.Faithful

/-!
# States that differ in the cache

Two states *mirror* each other if they are the same but for what is cached and
what was reported, and both caches are faithful. With a faithful cache a feature
whose gate is open comes out as it would without
(`Faithful.exists_perform_resolveOpen`), so mirrors stay mirrors.
-/

namespace FeatureGate.Resolver

open Store (Rows)

/-- **States that are the same but for the cache** and what was reported. -/
structure State.Twin {σ : Type} (s t : State σ) : Prop where
  /-- The definitions are the same. -/
  registry : t.work.registry = s.work.registry
  /-- The ambient scope is the same. -/
  ambient : t.work.ambient = s.work.ambient
  /-- The same frames are in flight. -/
  guard : t.work.guard = s.work.guard
  /-- The state of the store is the same. -/
  store : t.world.store = s.world.store
  /-- The clock is the same. -/
  now : t.world.now = s.world.now
  /-- The closures are the same, and were called as often. -/
  closures : t.world.closures = s.world.closures

namespace State.Twin

variable {σ : Type} {s t u : State σ}

theorem refl (s : State σ) : s.Twin s := ⟨rfl, rfl, rfl, rfl, rfl, rfl⟩

theorem symm (h : s.Twin t) : t.Twin s :=
  ⟨h.registry.symm, h.ambient.symm, h.guard.symm, h.store.symm, h.now.symm, h.closures.symm⟩

theorem trans (hst : s.Twin t) (htu : t.Twin u) : s.Twin u :=
  ⟨htu.registry.trans hst.registry, htu.ambient.trans hst.ambient,
    htu.guard.trans hst.guard, htu.store.trans hst.store, htu.now.trans hst.now,
    htu.closures.trans hst.closures⟩

theorem of_quiet (h : s.Quiet t) : s.Twin t :=
  ⟨by rw [h.work], by rw [h.work], by rw [h.work], h.store, h.now, h.closures⟩

theorem recached (s : State σ) (cache : Cache) : s.Twin ⟨{ s.work with cache }, s.world⟩ :=
  ⟨rfl, rfl, rfl, rfl, rfl, rfl⟩

theorem kept (s : State Rows) (resolver : Resolver) (feature key : String)
    (value : FeatureValue) (isDefined : Bool) :
    s.Twin (s.kept resolver feature key value isDefined) :=
  ⟨by simp, by simp, by simp, by simp, by simp, by simp⟩

end State.Twin

/-! ## Open features -/

section ResolveOpen

variable {resolver : Resolver} {membership : Membership} {s t : State Rows}
  {feature key : String} {own : FeatureValue}

theorem Faithful.kept (h : resolver.Faithful membership s) {value : FeatureValue}
    (hvalue : resolver.Recurs membership s feature key value) (isDefined : Bool) :
    resolver.Faithful membership (s.kept resolver feature key value isDefined) := by
  refine (h.put hvalue).of_quiet ?_
  unfold State.kept
  split
  · exact .told _ resolver _
  · exact .refl _

/-- A feature that is not cached comes out as its own value is completed. -/
theorem exists_perform_resolveOpen_of_own (h : resolver.Faithful membership t)
    (hcache : s.work.cache.get? feature key = none) {context : Context}
    {definition : Option Definition}
    (hperform : (resolver.readOrInitialize feature context key definition).perform
      Store.memory membership s = (.ok own, t))
    (hown : persisted? t.work.registry t.world.store feature key = some own) :
    ∃ u, (resolver.resolveOpen feature context key definition).perform Store.memory membership s
        = (completed own
            (resolver.inherited membership t.world.store t.work.ambient feature key), u)
      ∧ t.Twin u ∧ resolver.Faithful membership u := by
  rw [Action.perform_resolveOpen_of_own resolver hcache hperform]
  cases hvalue : completed own
      (resolver.inherited membership t.world.store t.work.ambient feature key) with
  | error e => exact ⟨t, rfl, .refl t, h⟩
  | ok value => exact ⟨_, rfl, .kept .., h.kept ⟨own, hown, hvalue⟩ _⟩

/-- **With a faithful cache, the cache does not show**: cached or not, the own
value is completed. -/
theorem Faithful.exists_perform_resolveOpen (h : resolver.Faithful membership s)
    (hown : persisted? s.work.registry s.world.store feature key = some own)
    (context : Context) :
    ∃ u, (resolver.resolveOpen feature context key (s.work.registry.get? feature)).perform
          Store.memory membership s
        = (completed own
            (resolver.inherited membership s.world.store s.work.ambient feature key), u)
      ∧ s.Twin u ∧ resolver.Faithful membership u := by
  cases hcache : s.work.cache.get? feature key with
  | some value =>
    obtain ⟨own', hown', hvalue⟩ := h feature key value hcache
    obtain rfl := Option.some.inj (hown'.symm.trans hown)
    rw [Action.perform_resolveOpen_of_cached resolver hcache, hvalue]
    exact ⟨s, rfl, .refl s, h⟩
  | none =>
    obtain ⟨t, hperform, hquiet⟩ := Action.exists_perform_readOrInitialize resolver hown context
    obtain ⟨u, hresolve, htwin, hfaithful⟩ := exists_perform_resolveOpen_of_own
      (h.of_quiet hquiet) hcache hperform (by rw [hquiet.work, hquiet.store, hown])
    rw [hquiet.work, hquiet.store] at hresolve
    exact ⟨u, hresolve, (State.Twin.of_quiet hquiet).trans htwin, hfaithful⟩

/-- **A first write** is what a feature without a row comes out as. -/
theorem Faithful.exists_perform_resolveOpen_defined (h : resolver.Faithful membership s)
    (hrow : s.world.store.get? feature key = none) {definition : Definition}
    (hdef : s.work.registry.get? feature = some definition)
    (hapart : resolver.IsApart membership s.work.ambient key) (context : Context) :
    ∃ u, (resolver.resolveOpen feature context key (s.work.registry.get? feature)).perform
          Store.memory membership s
        = (completed (.ofPayload (s.world.closures.firstPayload definition context key).1)
            (resolver.inherited membership
              (s.firstWritten definition feature context key).world.store
              s.work.ambient feature key), u)
      ∧ (s.firstWritten definition feature context key).Twin u
      ∧ resolver.Faithful membership u := by
  have hcache : s.work.cache.get? feature key = none := by
    rw [← Option.not_isSome_iff_eq_none, Option.isSome_iff_exists]
    rintro ⟨value, hvalue⟩
    obtain ⟨own, hown, -⟩ := h feature key value hvalue
    simp [persisted?, hrow, hdef] at hown
  rw [hdef]
  exact exists_perform_resolveOpen_of_own (h.firstWritten hrow hdef hapart context) hcache
    (Action.perform_readOrInitialize_defined resolver hrow context definition)
    (by simp [persisted?, State.firstWritten, Rows.get?_insert])

end ResolveOpen

/-! ## Mirrors -/

/-- **A state that reads may lead to** from an earlier one: with the same
definitions and ambient scope, and with every row that was there. -/
structure State.Later (origin s : State Rows) : Prop where
  /-- The definitions are the same. -/
  registry : s.work.registry = origin.work.registry
  /-- The ambient scope is the same. -/
  ambient : s.work.ambient = origin.work.ambient
  /-- No row has gone or changed. -/
  row {feature key : String} {payload : Payload} :
    origin.world.store.get? feature key = some payload →
      s.world.store.get? feature key = some payload

namespace State.Later

variable {origin s t : State Rows}

theorem refl (s : State Rows) : s.Later s := ⟨rfl, rfl, id⟩

theorem of_twin (h : origin.Later s) (hst : s.Twin t) : origin.Later t :=
  ⟨hst.registry.trans h.registry, hst.ambient.trans h.ambient,
    fun hrow => by rw [hst.store]; exact h.row hrow⟩

theorem firstWritten (h : origin.Later s) {feature key : String}
    (hrow : s.world.store.get? feature key = none) (definition : Definition)
    (context : Context) : origin.Later (s.firstWritten definition feature context key) := by
  refine ⟨h.registry, h.ambient, fun {f k payload} hold => ?_⟩
  have hlater := h.row hold
  unfold State.firstWritten
  rw [Rows.get?_insert]
  split
  · rename_i hat
    obtain ⟨rfl, rfl⟩ := hat
    rw [hrow] at hlater
    cases hlater
  · exact hlater

end State.Later

/-- **States that mirror each other**: both later than an earlier one, the same
but for the cache, and both with faithful caches. -/
structure Mirrors (resolver : Resolver) (membership : Membership) (origin s t : State Rows) :
    Prop where
  /-- The states are the same but for the cache. -/
  twin : s.Twin t
  /-- They are later than the origin. -/
  later : origin.Later s
  /-- One cache is faithful. -/
  left : resolver.Faithful membership s
  /-- The other one is, too. -/
  right : resolver.Faithful membership t

namespace Mirrors

variable {resolver : Resolver} {membership : Membership} {origin s s' t t' : State Rows}

theorem of_twins (h : resolver.Mirrors membership origin s t) (hs : s.Twin s')
    (ht : t.Twin t') (hleft : resolver.Faithful membership s')
    (hright : resolver.Faithful membership t') : resolver.Mirrors membership origin s' t' :=
  ⟨hs.symm.trans (h.twin.trans ht), h.later.of_twin hs, hleft, hright⟩

theorem of_quiet (h : resolver.Mirrors membership origin s t) (hs : s.Quiet s')
    (ht : t.Quiet t') : resolver.Mirrors membership origin s' t' :=
  h.of_twins (.of_quiet hs) (.of_quiet ht) (h.left.of_quiet hs) (h.right.of_quiet ht)

/-- The frames in flight do not matter to caches. -/
theorem within (h : resolver.Mirrors membership origin s t) (guard : Guard) :
    resolver.Mirrors membership origin (s.within guard) (t.within guard) :=
  ⟨⟨h.twin.registry, h.twin.ambient, rfl, h.twin.store, h.twin.now, h.twin.closures⟩,
    ⟨h.later.registry, h.later.ambient, h.later.row⟩, h.left, h.right⟩

/-- **A first write** for a key that is not one of a group leaves mirrors
behind. -/
theorem firstWritten (h : resolver.Mirrors membership origin s t) {feature key : String}
    {definition : Definition} (hrow : s.world.store.get? feature key = none)
    (hdef : s.work.registry.get? feature = some definition)
    (hapart : resolver.IsApart membership s.work.ambient key) (context : Context) :
    resolver.Mirrors membership origin (s.firstWritten definition feature context key)
      (t.firstWritten definition feature context key) := by
  have hright := h.right.firstWritten (by rw [h.twin.store, hrow])
    (by rw [h.twin.registry, hdef]) (by rw [h.twin.ambient]; exact hapart) context
  refine ⟨⟨h.twin.registry, h.twin.ambient, h.twin.guard, ?_, h.twin.now, ?_⟩,
    h.later.firstWritten hrow definition context, h.left.firstWritten hrow hdef hapart context,
    hright⟩
  · simp only [State.firstWritten, h.twin.store, h.twin.closures]
  · simp only [State.firstWritten, h.twin.closures]

end Mirrors

end FeatureGate.Resolver
