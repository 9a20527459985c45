import FeatureGate.Proofs.Resolution.Values

/-!
# What makes a cache faithful

A cache is *faithful* to a state if every value in it is the one that would come
out again without it: the own value needs no first write, and completed by what
is inherited it is the value in the cache.

Whether it is depends on the definition and the rows of each feature apart. So
whatever is done to one feature leaves the cache faithful, as long as the
entries of that feature go (`Faithful.of_agree`). The one change that evicts
nothing is the first write of a resolution. It is harmless because the row is
nobody else's own value, and because no group inherits from it, if the key it is
written for is not the key of a group.
-/

namespace FeatureGate.Resolver

open Store (Rows)

/-! ## Groups of a source -/

/-- **A group of the source** that a resolver consults: one that some context
belongs to. -/
def IsGroup (resolver : Resolver) (membership : Membership) (group : String) : Prop :=
  resolver.consultsGroups ∧ ∃ key groups, membership.groupsFor key = .ok groups ∧ group ∈ groups

/-- **A key that is not one of a group**, under an ambient scope. -/
def IsApart (resolver : Resolver) (membership : Membership) (ambient : Option Scope)
    (key : String) : Prop :=
  ∀ group, resolver.IsGroup membership group →
    key ≠ resolver.keyUnder ambient (.group group)

/-- Without groups, no key is one of a group. -/
theorem isApart_of_no_groups {resolver : Resolver} (hgroups : resolver.consultsGroups = false)
    (membership : Membership) (ambient : Option Scope) (key : String) :
    resolver.IsApart membership ambient key := by
  rintro group ⟨hconsults, -⟩
  rw [hgroups] at hconsults
  cases hconsults

section Inherited

variable (resolver : Resolver) (membership : Membership) (ambient : Option Scope)
  {rows rows' : Rows} {feature : String}

theorem firstGranted_congr {groups : List String}
    (h : ∀ group ∈ groups, rows'.get? feature (resolver.keyUnder ambient (.group group))
      = rows.get? feature (resolver.keyUnder ambient (.group group))) :
    resolver.firstGranted membership rows' ambient feature groups
      = resolver.firstGranted membership rows ambient feature groups := by
  induction groups with
  | nil => rfl
  | cons group rest ih =>
    rw [firstGranted_cons, firstGranted_cons, h group List.mem_cons_self,
      ih fun g hg => h g (List.mem_cons_of_mem group hg)]

/-- What is inherited depends on the rows of groups only. -/
theorem inherited_congr
    (h : ∀ group, resolver.IsGroup membership group →
      rows'.get? feature (resolver.keyUnder ambient (.group group))
        = rows.get? feature (resolver.keyUnder ambient (.group group)))
    (key : String) :
    resolver.inherited membership rows' ambient feature key
      = resolver.inherited membership rows ambient feature key := by
  unfold inherited
  split
  · rename_i hconsults
    cases hgroups : membership.groupsFor key with
    | error e => rfl
    | ok groups =>
      exact resolver.firstGranted_congr membership ambient fun group hgroup =>
        h group ⟨hconsults, key, groups, hgroups, hgroup⟩
  · rfl

/-- A row of a key that is not one of a group is not inherited. -/
theorem inherited_insert {written : String}
    (h : resolver.IsApart membership ambient written) (f : String) (value : Payload)
    (key : String) :
    resolver.inherited membership (rows.insert ⟨f, written⟩ value) ambient feature key
      = resolver.inherited membership rows ambient feature key := by
  refine resolver.inherited_congr membership ambient (fun group hgroup => ?_) key
  rw [Rows.get?_insert, if_neg fun hat => h group hgroup hat.2]

end Inherited

/-! ## Faithful caches -/

/-- **A value that comes out without the cache**: completed from an own value
that needs no write. -/
def Recurs (resolver : Resolver) (membership : Membership) (s : State Rows)
    (feature key : String) (value : FeatureValue) : Prop :=
  ∃ own, persisted? s.work.registry s.world.store feature key = some own ∧
    completed own (resolver.inherited membership s.world.store s.work.ambient feature key)
      = .ok value

/-- **A faithful cache**: every value in it comes out without it. -/
def Faithful (resolver : Resolver) (membership : Membership) (s : State Rows) : Prop :=
  ∀ feature key value, s.work.cache.get? feature key = some value →
    resolver.Recurs membership s feature key value

namespace Faithful

variable {resolver : Resolver} {membership : Membership} {s t : State Rows}

theorem of_empty (h : s.work.cache = .empty) : resolver.Faithful membership s := by
  intro feature key value hvalue
  rw [h, Cache.get?_empty] at hvalue
  cases hvalue

/-- **A cache stays faithful** if the features with values in it keep their
definitions and their rows. -/
theorem of_agree (h : resolver.Faithful membership s)
    (hambient : t.work.ambient = s.work.ambient)
    (hagree : ∀ feature key value, t.work.cache.get? feature key = some value →
      s.work.cache.get? feature key = some value
        ∧ t.work.registry.get? feature = s.work.registry.get? feature
        ∧ ∀ key', t.world.store.get? feature key' = s.world.store.get? feature key') :
    resolver.Faithful membership t := by
  intro feature key value hvalue
  obtain ⟨hold, hregistry, hrows⟩ := hagree feature key value hvalue
  obtain ⟨own, hown, hcompleted⟩ := h feature key value hold
  refine ⟨own, ?_, ?_⟩
  · unfold persisted? at hown ⊢
    rw [hrows, hregistry, hown]
  · rw [hambient, resolver.inherited_congr membership _ (fun _ _ => hrows _), hcompleted]

/-- A value may be kept if it comes out without the cache. -/
theorem put (h : resolver.Faithful membership s) {feature key : String}
    {value : FeatureValue} (hvalue : resolver.Recurs membership s feature key value) :
    resolver.Faithful membership
      ⟨{ s.work with cache := s.work.cache.put feature key value }, s.world⟩ := by
  intro f k v hv
  change (s.work.cache.put feature key value).get? f k = some v at hv
  rw [Cache.get?_put] at hv
  split at hv
  · rename_i hat
    obtain ⟨rfl, rfl⟩ := hat
    rw [← Option.some.inj hv]
    exact hvalue
  · exact h f k v hv

/-- A value may always be forgotten. -/
theorem forget (h : resolver.Faithful membership s) (feature key : String) :
    resolver.Faithful membership
      ⟨{ s.work with cache := s.work.cache.forget feature key }, s.world⟩ := by
  refine h.of_agree rfl fun f k value hvalue => ⟨?_, rfl, fun _ => rfl⟩
  change (s.work.cache.forget feature key).get? f k = some value at hvalue
  rw [Cache.get?_forget] at hvalue
  split at hvalue
  · cases hvalue
  · exact hvalue

theorem of_quiet (h : resolver.Faithful membership s) (hst : s.Quiet t) :
    resolver.Faithful membership t := by
  intro feature key value hvalue
  rw [hst.work] at hvalue
  unfold Recurs
  rw [hst.work, hst.store]
  exact h feature key value hvalue

/-- **A first write** for a key that is not one of a group leaves the cache
faithful, although nothing is evicted. -/
theorem firstWritten (h : resolver.Faithful membership s) {definition : Definition}
    {feature key : String} (hrow : s.world.store.get? feature key = none)
    (hdef : s.work.registry.get? feature = some definition)
    (hapart : resolver.IsApart membership s.work.ambient key) (context : Context) :
    resolver.Faithful membership (s.firstWritten definition feature context key) := by
  intro f k v hv
  obtain ⟨own, hown, hcompleted⟩ := h f k v hv
  refine ⟨own, ?_, ?_⟩
  · -- what is cached needs no first write, so the row is another one
    have hother : ¬ (feature = f ∧ key = k) := by
      rintro ⟨rfl, rfl⟩
      simp [persisted?, hrow, hdef] at hown
    unfold persisted? State.firstWritten
    rw [Rows.get?_insert, if_neg hother]
    exact hown
  · unfold State.firstWritten
    rw [resolver.inherited_insert membership _ hapart]
    exact hcompleted

end Faithful

end FeatureGate.Resolver
