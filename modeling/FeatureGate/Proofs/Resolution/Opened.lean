import FeatureGate.Proofs.Gating.Base
import FeatureGate.Proofs.Nesting.Kept

/-!
# After an open feature was resolved

What resolving an open feature comes to, as a function of the state before: the value it gives
is `Resolver.baseValue`, and the state it leaves behind is `State.opened`. This is so whatever
the closures do, since a feature is evaluated once at the most, and whatever frames are in
flight. Of all other features the rows and the cached values are left alone
(`State.SameBut`).
-/

namespace FeatureGate.Resolver

open Store (Rows)

/-! ## Features that are left alone -/

/-- **States that differ in what some features are stored and cached with**, and in what was
reported and computed. -/
structure State.SameBut (among : String → Prop) (s t : State Rows) : Prop
    extends s.work.Kept t.work where
  /-- The clock is the same. -/
  now : t.world.now = s.world.now
  /-- The rows of other features are the same. -/
  row {feature : String} (h : ¬ among feature) (key : String) :
    t.world.store.get? feature key = s.world.store.get? feature key
  /-- So are their cached values. -/
  cached {feature : String} (h : ¬ among feature) (key : String) :
    t.work.cache.get? feature key = s.work.cache.get? feature key

namespace State.SameBut

variable {among among' : String → Prop} {s t u : State Rows}

theorem refl (among : String → Prop) (s : State Rows) : s.SameBut among s :=
  ⟨.refl _, rfl, fun _ _ => rfl, fun _ _ => rfl⟩

theorem trans (hst : s.SameBut among t) (htu : t.SameBut among u) : s.SameBut among u :=
  ⟨hst.toKept.trans htu.toKept, htu.now.trans hst.now,
    fun h key => (htu.row h key).trans (hst.row h key),
    fun h key => (htu.cached h key).trans (hst.cached h key)⟩

theorem mono (h : s.SameBut among t) (hamong : ∀ feature, among feature → among' feature) :
    s.SameBut among' t :=
  ⟨h.toKept, h.now, fun hnot => h.row fun hin => hnot (hamong _ hin),
    fun hnot => h.cached fun hin => hnot (hamong _ hin)⟩

end State.SameBut

/-! ## Open features -/

/-- **The state after an own value was asked for**: it is read, computed and written, or
reported to be unknown. -/
def State.initialized (s : State Rows) (resolver : Resolver) (context : Context)
    (feature key : String) : State Rows :=
  match s.world.store.get? feature key, s.work.registry.get? feature with
  | some _, _ => s
  | none, some definition => s.firstWritten definition feature context key
  | none, none => s.told resolver (.unknownFeatureResolved feature key)

/-- **The state after an open feature was resolved**: its value is kept, unless it was. -/
def State.opened (s : State Rows) (resolver : Resolver) (source : Source) (context : Context)
    (feature : String) : State Rows :=
  let key := resolver.keyUnder s.work.ambient context
  match s.work.cache.get? feature key with
  | some _ => s
  | none => (s.initialized resolver context feature key).kept resolver feature key
      (resolver.baseValue source context s feature) (s.work.registry.get? feature).isSome

section Open

variable (resolver : Resolver) (source : Source) (context : Context) (s : State Rows)
  (feature key : String)

theorem perform_readOrInitialize (membership : Membership) :
    (resolver.readOrInitialize feature context key (s.work.registry.get? feature)).perform
        Store.memory membership s
      = (.ok (ownValue s context feature key), s.initialized resolver context feature key) := by
  unfold ownValue State.initialized
  cases hrow : s.world.store.get? feature key with
  | some payload =>
    exact Action.perform_readOrInitialize_of_ok resolver
      (Action.perform_readOrCompute_of_row resolver hrow context _)
  | none =>
    cases s.work.registry.get? feature with
    | none =>
      exact Action.perform_readOrInitialize_of_ok resolver
        (Action.perform_readOrCompute_undefined resolver hrow context)
    | some definition =>
      exact Action.perform_readOrInitialize_defined resolver hrow context definition

@[simp]
theorem work_initialized : (s.initialized resolver context feature key).work = s.work := by
  unfold State.initialized
  split
  · rfl
  · rfl
  · exact s.work_told resolver _

@[simp]
theorem now_initialized :
    (s.initialized resolver context feature key).world.now = s.world.now := by
  unfold State.initialized
  split
  · rfl
  · rfl
  · exact s.now_told resolver _

/-- The own row is there, and no other one is touched. -/
theorem get?_initialized (f k : String) :
    (s.initialized resolver context feature key).world.store.get? f k
      = if f = feature ∧ k = key then ownRow s context feature key
        else s.world.store.get? f k := by
  unfold State.initialized ownRow
  by_cases hat : f = feature ∧ k = key
  · obtain ⟨rfl, rfl⟩ := hat
    rw [if_pos ⟨rfl, rfl⟩]
    cases hrow : s.world.store.get? f k with
    | some payload => exact hrow
    | none =>
      cases s.work.registry.get? f with
      | none => simpa using hrow
      | some definition => simp [State.firstWritten, Rows.get?_insert]
  · rw [if_neg hat]
    have hother : ¬ (feature = f ∧ key = k) := fun h => hat ⟨h.1.symm, h.2.symm⟩
    split
    · rfl
    · simp [State.firstWritten, Rows.get?_insert, hother]
    · simp

/-- What is granted does not depend on the own row, if that is not active. -/
theorem granted_initialized (h : (ownValue s context feature key).isActive = false)
    (ambient : Option Scope) (key' : String) :
    resolver.granted source (s.initialized resolver context feature key).world.store ambient
        feature key'
      = resolver.granted source s.world.store ambient feature key' := by
  unfold ownValue at h
  unfold State.initialized
  split
  · rfl
  · rename_i hrow hdef
    rw [hrow, hdef] at h
    exact granted_insert resolver source (fun _ => ⟨hrow, h⟩) ambient key'
  · rw [State.store_told]

variable {context s feature} in
/-- The value of a feature that is not cached: its own one, or else one that is granted. -/
theorem baseValue_of_not_cached {key : String}
    (hkey : resolver.keyUnder s.work.ambient context = key)
    (h : s.work.cache.get? feature key = none) :
    resolver.baseValue source context s feature
      = if (ownValue s context feature key).isActive then ownValue s context feature key
        else (resolver.granted source s.world.store s.work.ambient feature key).getD
          (ownValue s context feature key) := by
  subst hkey
  simp only [baseValue, h]

variable {context s feature} in
/-- The row that lasts is the own one, if nothing is cached. -/
theorem lastingRow_of_not_cached {key : String}
    (hkey : resolver.keyUnder s.work.ambient context = key)
    (h : s.work.cache.get? feature key = none) :
    resolver.lastingRow context s feature = ownRow s context feature key := by
  subst hkey
  simp only [lastingRow, h]

/-- **Resolving an open feature** gives its value, whatever the closures do. -/
theorem perform_resolveOpen :
    (resolver.resolveOpen feature context (resolver.keyUnder s.work.ambient context)
        (s.work.registry.get? feature)).perform Store.memory source.membership s
      = (.ok (resolver.baseValue source context s feature),
          s.opened resolver source context feature) := by
  unfold State.opened
  generalize hkey : resolver.keyUnder s.work.ambient context = key
  dsimp only
  cases hcache : s.work.cache.get? feature key with
  | some value =>
    rw [Action.perform_resolveOpen_of_cached resolver hcache]
    simp [baseValue, hkey, hcache]
  | none =>
    have hcompleted : completed (ownValue s context feature key)
        (resolver.inherited source.membership
          (s.initialized resolver context feature key).world.store
          (s.initialized resolver context feature key).work.ambient feature key)
        = .ok (resolver.baseValue source context s feature) := by
      rw [inherited_source, work_initialized, baseValue_of_not_cached resolver source hkey hcache]
      unfold completed
      cases hactive : (ownValue s context feature key).isActive with
      | true => rfl
      | false =>
        rw [granted_initialized resolver source context s feature key hactive]
        rfl
    rw [Action.perform_resolveOpen_of_own resolver hcache
      (perform_readOrInitialize resolver context s feature key source.membership), hcompleted]

/-- Resolving an open feature leaves the other ones alone. -/
theorem sameBut_opened : s.SameBut (· = feature) (s.opened resolver source context feature) := by
  unfold State.opened
  dsimp only
  split
  · exact .refl _ s
  · refine ⟨⟨by simp, by simp, by simp⟩, by simp, fun {f} hf k => ?_, fun {f} hf k => ?_⟩
    · rw [State.store_kept, get?_initialized, if_neg fun hat => hf hat.1]
    · rw [State.work_kept, Cache.get?_put, work_initialized, if_neg fun hat => hf hat.1.symm]

/-- **The row that lasts** is there, and no other one is touched. -/
theorem get?_opened (f k : String) :
    (s.opened resolver source context feature).world.store.get? f k
      = if f = feature ∧ k = resolver.keyUnder s.work.ambient context then
          resolver.lastingRow context s feature
        else s.world.store.get? f k := by
  unfold State.opened lastingRow
  dsimp only
  cases s.work.cache.get? feature (resolver.keyUnder s.work.ambient context) with
  | some value =>
    refine (ite_eq_right_iff.mpr ?_).symm
    rintro ⟨rfl, rfl⟩
    rfl
  | none => rw [State.store_kept, get?_initialized]

theorem told_within (event : Event) (guard : Guard) :
    (s.within guard).told resolver event = (s.told resolver event).within guard := by
  unfold State.told
  split <;> rfl

theorem kept_within (value : FeatureValue) (isDefined : Bool) (guard : Guard) :
    (s.within guard).kept resolver feature key value isDefined
      = (s.kept resolver feature key value isDefined).within guard := by
  cases isDefined with
  | false => rfl
  | true =>
    exact told_within resolver
      ⟨{ s.work with cache := s.work.cache.put feature key value }, s.world⟩ _ guard

theorem initialized_within (guard : Guard) :
    (s.within guard).initialized resolver context feature key
      = (s.initialized resolver context feature key).within guard := by
  unfold State.initialized
  show (match s.world.store.get? feature key, s.work.registry.get? feature with
    | some _, _ => s.within guard
    | none, some definition => (s.within guard).firstWritten definition feature context key
    | none, none => (s.within guard).told resolver (.unknownFeatureResolved feature key)) = _
  split
  · rfl
  · rfl
  · exact told_within resolver s _ guard

/-- **Which frames are in flight** makes no difference to an open feature. -/
theorem opened_within (guard : Guard) :
    (s.within guard).opened resolver source context feature
      = (s.opened resolver source context feature).within guard := by
  have hbase : resolver.baseValue source context (s.within guard) feature
      = resolver.baseValue source context s feature := rfl
  cases hcache : s.work.cache.get? feature (resolver.keyUnder s.work.ambient context) with
  | some value =>
    have hcache' : (s.within guard).work.cache.get? feature
        (resolver.keyUnder (s.within guard).work.ambient context) = some value := hcache
    simp only [State.opened, hcache, hcache']
  | none =>
    have hcache' : (s.within guard).work.cache.get? feature
        (resolver.keyUnder (s.within guard).work.ambient context) = none := hcache
    simp only [State.opened, hcache, hcache', hbase, initialized_within, kept_within]
    rfl

end Open

end FeatureGate.Resolver
