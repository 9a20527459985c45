import FeatureGate.Proofs.Correlation
import FeatureGate.Proofs.Gating.Resolution
import FeatureGate.Proofs.Store.Footprint

/-!
# Queries for many features at once

Features that are asked for together are resolved one after another, and each resolution
fills the cache and writes first values that later ones read. The answers are those that
each feature has by itself all the same, and the rows left behind do not depend on the
order: they are told by which features were *settled*, that is, have a value in the cache
in the end (`Swept`).

That the set of settled features does not depend on the order is shown by running the
same resolution in two states. If whatever it settles in the one lies in some set, so
does whatever it settles in the other, as long as what was settled there before does
(`Abreast`). A list of features resolved in one order thus settles no more than the same
list in another order does.
-/

namespace FeatureGate.Resolver

open Store (Rows)

/-- **A state that resolutions for a context lead to** from an origin. It is told from the
origin by which features are settled. -/
structure Swept (resolver : Resolver) (source : Source) (context : Context)
    (origin s : State Rows) : Prop where
  /-- The ambient scope is the same. -/
  ambient : s.work.ambient = origin.work.ambient
  /-- The definitions, the time and the values of all features are the same. -/
  gates : resolver.gates source context s = resolver.gates source context origin
  /-- The closures are functions of the context. -/
  pure : s.world.closures.ArePure
  /-- First payloads are the same. -/
  payload (definition : Definition) (key : String) :
    (s.world.closures.firstPayload definition context key).1
      = (origin.world.closures.firstPayload definition context key).1
  /-- Where a value was cached, one is so still. -/
  cached {feature key : String} : (origin.work.cache.get? feature key).isSome →
    (s.work.cache.get? feature key).isSome
  /-- A feature that is settled has the row that lasts. -/
  row {feature : String} : s.Settles resolver context feature →
    s.world.store.get? feature (resolver.keyUnder origin.work.ambient context)
      = resolver.lastingRow context origin feature
  /-- All other rows are as they were. -/
  other {feature key : String}
    (h : key = resolver.keyUnder origin.work.ambient context →
      ¬ s.Settles resolver context feature) :
    s.world.store.get? feature key = origin.world.store.get? feature key

namespace Swept

variable {resolver : Resolver} {source : Source} {context : Context} {origin s t : State Rows}

theorem refl (h : s.world.closures.ArePure) : resolver.Swept source context s s where
  ambient := rfl
  gates := rfl
  pure := h
  payload _ _ := rfl
  cached h := h
  row {feature} hsettled := by
    obtain ⟨value, hvalue⟩ := Option.isSome_iff_exists.mp hsettled
    simp [lastingRow, hvalue]
  other _ := rfl

theorem registry (h : resolver.Swept source context origin s) :
    s.work.registry = origin.work.registry :=
  congrArg Gates.registry h.gates

theorem now (h : resolver.Swept source context origin s) : s.world.now = origin.world.now :=
  congrArg Gates.now h.gates

/-- What was settled is so still. -/
theorem settles (h : resolver.Swept source context origin s) {feature : String}
    (hsettles : origin.Settles resolver context feature) :
    s.Settles resolver context feature := by
  unfold State.Settles at hsettles ⊢
  rw [h.ambient]
  exact h.cached hsettles

/-- **The row that lasts** is the same from the origin on. -/
theorem lastingRow_eq (h : resolver.Swept source context origin s) (feature : String) :
    resolver.lastingRow context s feature = resolver.lastingRow context origin feature := by
  have hsettles : s.Settles resolver context feature
      ↔ (s.work.cache.get? feature (resolver.keyUnder origin.work.ambient context)).isSome := by
    unfold State.Settles
    rw [h.ambient]
  unfold lastingRow
  rw [h.ambient]
  dsimp only
  cases hvalue : s.work.cache.get? feature (resolver.keyUnder origin.work.ambient context) with
  | some value => exact h.row (hsettles.mpr (by rw [hvalue]; rfl))
  | none =>
    have hnot : ¬ s.Settles resolver context feature := fun hs => by
      simpa [hvalue] using hsettles.mp hs
    have hnone : origin.work.cache.get? feature (resolver.keyUnder origin.work.ambient context)
        = none :=
      Option.not_isSome_iff_eq_none.mp fun hs => hnot (h.settles hs)
    rw [hnone]
    simp only [ownRow, h.registry, h.payload, h.other fun _ => hnot]

/-- Reports and frames have nothing to do with it. -/
theorem of_quiet (h : resolver.Swept source context origin s) (hst : s.Quiet t) :
    resolver.Swept source context origin t where
  ambient := by rw [hst.work, h.ambient]
  gates := (Unmoved.of_quiet hst h.pure).gates.trans h.gates
  pure := by rw [hst.closures]; exact h.pure
  payload definition key := by rw [hst.closures, h.payload]
  cached := by rw [hst.work]; exact h.cached
  row := by unfold State.Settles; rw [hst.work, hst.store]; exact h.row
  other := by unfold State.Settles; rw [hst.work, hst.store]; exact h.other

theorem within (h : resolver.Swept source context origin s) (guard : Guard) :
    resolver.Swept source context origin (s.within guard) :=
  { h with }

/-- **Resolving an open feature** settles it, and no other one. -/
theorem leaves (h : resolver.Swept source context origin s) {feature : String}
    (hst : resolver.Leaves source context feature s t) :
    resolver.Swept source context origin t
      ∧ ∀ f, t.Settles resolver context f ↔ s.Settles resolver context f ∨ f = feature := by
  have hsettles : ∀ f, t.Settles resolver context f
      ↔ s.Settles resolver context f ∨ f = feature := by
    intro f
    unfold State.Settles
    rw [hst.ambient, hst.cached, and_iff_left rfl]
  refine ⟨?_, hsettles⟩
  exact {
    ambient := hst.ambient.trans h.ambient
    gates := hst.gates.trans h.gates
    pure := hst.pure
    payload := fun definition key => (hst.payload definition key).trans (h.payload definition key)
    cached := fun hf => (hst.cached _ _).mpr (.inl (h.cached hf))
    row := by
      intro f hf
      rw [hst.row, h.ambient, h.lastingRow_eq]
      split
      · rename_i hat
        rw [hat.1]
      · rename_i hne
        refine h.row (((hsettles f).mp hf).resolve_right fun hat => hne ⟨hat, rfl⟩)
    other := by
      intro f k hf
      rw [hst.row, h.ambient, if_neg]
      · exact h.other fun hk hs => hf hk ((hsettles f).mpr (.inl hs))
      · rintro ⟨rfl, rfl⟩
        exact hf rfl ((hsettles f).mpr (.inr rfl)) }

/-- **States with the same features settled** have the same rows. -/
theorem store_eq (hs : resolver.Swept source context origin s)
    (ht : resolver.Swept source context origin t)
    (hsettles : ∀ f, s.Settles resolver context f ↔ t.Settles resolver context f) :
    s.world.store = t.world.store := by
  refine Rows.eq_of_agree fun f k _ => ?_
  by_cases hat : k = resolver.keyUnder origin.work.ambient context
    ∧ s.Settles resolver context f
  · obtain ⟨rfl, hf⟩ := hat
    rw [hs.row hf, ht.row ((hsettles f).mp hf)]
  · rw [hs.other fun hk hf => hat ⟨hk, hf⟩,
      ht.other fun hk hf => hat ⟨hk, (hsettles f).mpr hf⟩]

end Swept

/-! ## Two resolutions abreast -/

/-- **Two states that resolutions lead to** from an origin, with the same frames in flight:
if all that is settled in the one is among some features, so is all that is settled in
the other. -/
structure Abreast (resolver : Resolver) (source : Source) (context : Context)
    (origin : State Rows) (among : String → Prop) (s t : State Rows) : Prop where
  /-- Resolutions lead to the one. -/
  left : resolver.Swept source context origin s
  /-- Resolutions lead to the other. -/
  right : resolver.Swept source context origin t
  /-- The same frames are in flight. -/
  guard : s.work.guard = t.work.guard
  /-- The other has no more settled than the one may have. -/
  among : (∀ f, s.Settles resolver context f → among f) →
    ∀ f, t.Settles resolver context f → among f

namespace Abreast

variable {resolver : Resolver} {source : Source} {context : Context} {origin s t : State Rows}
  {among : String → Prop}

theorem correlated (resolver : Resolver) (source : Source) (context : Context)
    (origin : State Rows) (among : String → Prop) :
    Correlated (resolver.Abreast source context origin among) where
  now h := h.left.now.trans h.right.now.symm
  guard h := h.guard
  registry h := h.left.registry.trans h.right.registry.symm
  within guard h := ⟨h.left.within guard, h.right.within guard, rfl, h.among⟩
  quiet h hs ht := by
    refine ⟨h.left.of_quiet hs, h.right.of_quiet ht, by rw [hs.work, ht.work, h.guard], ?_⟩
    unfold State.Settles
    rw [hs.work, ht.work]
    exact h.among

/-- **Open features are resolved abreast.** -/
theorem opens (resolver : Resolver) (source : Source) (context : Context)
    (origin : State Rows) (among : String → Prop) :
    Respects.Opens Store.memory source.membership (resolver.Abreast source context origin among)
      resolver context fun _ => True where
  toCorrelated := correlated ..
  key h := by rw [h.left.ambient, h.right.ambient]
  required _ _ _ _ _ := trivial
  resolveOpen {feature s₀ _} _ h₀ s t h := by
    obtain ⟨s', hs, hleft⟩ :=
      resolver.exists_perform_resolveOpen source h.left.pure feature rfl
    obtain ⟨t', ht, hright⟩ :=
      resolver.exists_perform_resolveOpen source h.right.pure feature rfl
    have hbase : resolver.baseValue source context s feature
        = resolver.baseValue source context t feature :=
      congrFun (congrArg Gates.base (h.left.gates.trans h.right.gates.symm)) feature
    rw [h.left.ambient, h.left.registry] at hs
    rw [h.right.ambient, h.right.registry, ← hbase] at ht
    rw [h₀.left.ambient, h₀.left.registry, hs, ht]
    obtain ⟨hswept, hsettles⟩ := h.left.leaves hleft
    obtain ⟨hswept', hsettles'⟩ := h.right.leaves hright
    refine ⟨rfl, hswept, hswept', by rw [hleft.guard, hright.guard, h.guard], fun hall f hf => ?_⟩
    rcases (hsettles' f).mp hf with hf | rfl
    · exact h.among (fun g hg => hall g ((hsettles g).mpr (.inl hg))) f hf
    · exact hall f ((hsettles f).mpr (.inr rfl))

end Abreast

/-! ## Features resolved one after another -/

/-- **The state after features were resolved** for a context, one after another. -/
def afterAll (resolver : Resolver) (source : Source) (context : Context) (features : List String)
    (s : State Rows) : State Rows :=
  features.foldl (fun s feature =>
    ((resolver.resolve feature context).perform Store.memory source.membership s).2) s

namespace Swept

variable {resolver : Resolver} {source : Source} {context : Context} {origin s t : State Rows}
  {among : String → Prop} {feature : String} {features features' : List String}

/-- **Resolving a feature** answers as the gates of the origin say, and leads on. -/
theorem exists_perform_resolve (h : resolver.Swept source context origin s) (feature : String) :
    ∃ value t, (resolver.resolve feature context).perform Store.memory source.membership s
        = (.ok value, t)
      ∧ (resolver.gates source context origin).Answers feature value
      ∧ resolver.Swept source context origin t ∧ resolver.Swept source context s t := by
  obtain ⟨value, t, hperform, hanswers, -⟩ :=
    resolver.exists_perform_resolve source h.pure feature context
  have hswept : ∀ before, resolver.Swept source context before s →
      resolver.Swept source context before t := by
    intro before hbefore
    have hrespects : Respects Store.memory source.membership
        (resolver.Abreast source context before fun _ => True)
        (resolver.resolve feature context) := (Abreast.opens ..).resolve trivial
    have hafter := (hrespects s s ⟨hbefore, hbefore, rfl, id⟩).2.left
    rwa [hperform] at hafter
  exact ⟨value, t, hperform, h.gates ▸ hanswers, hswept origin h, hswept s (.refl h.pure)⟩

/-- **What a resolution settles** is among some features, if that is so from another state on,
and if what was settled before is. -/
theorem among_resolve (hs : resolver.Swept source context origin s)
    (ht : resolver.Swept source context origin t)
    (hamong : ∀ f, (((resolver.resolve feature context).perform Store.memory
      source.membership s).2).Settles resolver context f → among f)
    (hbefore : ∀ f, t.Settles resolver context f → among f) (f : String)
    (hf : (((resolver.resolve feature context).perform Store.memory
      source.membership t).2).Settles resolver context f) : among f := by
  have habreast : resolver.Abreast source context origin among (s.within .empty)
      (t.within .empty) := ⟨hs.within _, ht.within _, rfl, fun _ => hbefore⟩
  exact ((Abreast.opens resolver source context origin among).resolve trivial _ _ habreast).2.among
    hamong f hf

/-- Resolving features leads on, and unsettles nothing. -/
theorem afterAll (h : resolver.Swept source context origin s) (features : List String) :
    resolver.Swept source context origin (resolver.afterAll source context features s)
      ∧ ∀ f, s.Settles resolver context f →
        (resolver.afterAll source context features s).Settles resolver context f := by
  induction features generalizing s with
  | nil => exact ⟨h, fun _ => id⟩
  | cons feature rest ih =>
    obtain ⟨value, t, hperform, -, ht, hst⟩ := h.exists_perform_resolve feature
    have hnext : resolver.afterAll source context (feature :: rest) s
        = resolver.afterAll source context rest t := by
      unfold Resolver.afterAll
      rw [List.foldl_cons, hperform]
    rw [hnext]
    exact ⟨(ih ht).1, fun f hf => (ih ht).2 f (hst.settles hf)⟩

/-- Each feature of a list is resolved in some state, which settles no more than the whole
list does. -/
theorem exists_of_mem (h : resolver.Swept source context origin s) (hmem : feature ∈ features) :
    ∃ u, resolver.Swept source context origin u
      ∧ ∀ f, (((resolver.resolve feature context).perform Store.memory
          source.membership u).2).Settles resolver context f →
        (resolver.afterAll source context features s).Settles resolver context f := by
  induction features generalizing s with
  | nil => cases hmem
  | cons first rest ih =>
    obtain ⟨value, t, hperform, -, ht, -⟩ := h.exists_perform_resolve first
    have hnext : resolver.afterAll source context (first :: rest) s
        = resolver.afterAll source context rest t := by
      unfold Resolver.afterAll
      rw [List.foldl_cons, hperform]
    rw [hnext]
    rcases List.mem_cons.mp hmem with rfl | hrest
    · exact ⟨s, h, by rw [hperform]; exact (ht.afterAll rest).2⟩
    · exact ih ht hrest

/-- **Resolving features settles no more** than resolving a list does in which they all
occur. -/
theorem settles_afterAll (h : resolver.Swept source context origin s)
    (hmem : ∀ f ∈ features', f ∈ features) (f : String)
    (hf : (resolver.afterAll source context features' s).Settles resolver context f) :
    (resolver.afterAll source context features s).Settles resolver context f := by
  -- on the features to resolve, from any state that has no more settled than in the end
  suffices hfrom : ∀ t, resolver.Swept source context origin t →
      (∀ g, t.Settles resolver context g →
        (resolver.afterAll source context features s).Settles resolver context g) →
      (resolver.afterAll source context features' t).Settles resolver context f →
      (resolver.afterAll source context features s).Settles resolver context f from
    hfrom s h (h.afterAll features).2 hf
  clear hf
  induction features' with
  | nil => exact fun t _ hbefore hf => hbefore f hf
  | cons feature rest ih =>
    intro t ht hbefore hf
    obtain ⟨u, hu, hamong⟩ := h.exists_of_mem (hmem feature List.mem_cons_self)
    obtain ⟨value, t', hperform, -, ht', -⟩ := ht.exists_perform_resolve feature
    refine ih (fun g hg => hmem g (List.mem_cons_of_mem _ hg)) t' ht' ?_ ?_
    · have hafter := hu.among_resolve ht hamong hbefore
      rwa [hperform] at hafter
    · unfold Resolver.afterAll at hf ⊢
      rwa [List.foldl_cons, hperform] at hf

end Swept

/-! ## Bulk queries -/

/-- Values by name, one entry after another: each of the features listed has its own. -/
theorem getElem?_foldl_insert (value : String → FeatureValue) (features : List String)
    (map : Std.ExtTreeMap String FeatureValue) (feature : String) :
    ((features.map fun f => (f, value f)).foldl (fun map (f, v) => map.insert f v) map)[feature]?
      = if feature ∈ features then some (value feature) else map[feature]? := by
  induction features generalizing map with
  | nil => rfl
  | cons first rest ih =>
    rw [List.map_cons, List.foldl_cons, ih, Std.ExtTreeMap.getElem?_insert]
    by_cases hrest : feature ∈ rest
    · simp [hrest]
    · by_cases hfirst : first = feature
      · subst hfirst
        simp [hrest]
      · simp [hrest, hfirst, Ne.symm hfirst]

namespace Swept

variable {resolver : Resolver} {source : Source} {context : Context} {origin s : State Rows}
  {value : String → FeatureValue}

section Answers

variable (hvalue : ∀ f, (resolver.gates source context origin).Answers f (value f))
include hvalue

/-- **A feature comes out with its value** from wherever resolutions lead to. -/
theorem perform_resolve (h : resolver.Swept source context origin s) (feature : String) :
    (resolver.resolve feature context).perform Store.memory source.membership s
      = (.ok (value feature), resolver.afterAll source context [feature] s) := by
  obtain ⟨value', t, hperform, hanswers, -⟩ := h.exists_perform_resolve feature
  unfold Resolver.afterAll
  rw [List.foldl_cons, List.foldl_nil, hperform, hanswers.unique (hvalue feature)]

theorem perform_mapM (h : resolver.Swept source context origin s) (features : List String) :
    (features.mapM fun feature =>
      return (feature, ← resolver.resolve feature context) : Action _).perform
        Store.memory source.membership s
      = (.ok (features.map fun f => (f, value f)),
          resolver.afterAll source context features s) := by
  induction features generalizing s with
  | nil => rfl
  | cons feature rest ih =>
    rw [List.mapM_cons, Action.perform_bind, Action.perform_bind, h.perform_resolve hvalue,
      Action.andThen_ok, Action.perform_pure, Action.andThen_ok, Action.perform_bind,
      ih (h.afterAll [feature]).1]
    rfl

theorem perform_isActive (h : resolver.Swept source context origin s) (feature : String) :
    (resolver.isActive feature context).perform Store.memory source.membership s
      = (.ok (value feature).isActive, resolver.afterAll source context [feature] s) := by
  rw [isActive, Action.perform_bind, h.perform_resolve hvalue]
  rfl

/-- Asking whether all features are active stops at the first that is not, and tells. -/
theorem perform_allAreActive (h : resolver.Swept source context origin s)
    (features : List String) :
    ((resolver.allAreActive features context).perform Store.memory source.membership s).1
      = .ok (features.all fun f => (value f).isActive) := by
  induction features generalizing s with
  | nil => rfl
  | cons feature rest ih =>
    rw [allAreActive, Action.perform_bind, h.perform_isActive hvalue, Action.andThen_ok,
      Action.perform_ite, List.all_cons]
    cases hactive : (value feature).isActive with
    | true => exact ih (h.afterAll [feature]).1
    | false => rfl

/-- Asking whether one of them is stops at the first that is, and tells. -/
theorem perform_someAreActive (h : resolver.Swept source context origin s)
    (features : List String) :
    ((resolver.someAreActive features context).perform Store.memory source.membership s).1
      = .ok (features.any fun f => (value f).isActive) := by
  induction features generalizing s with
  | nil => rfl
  | cons feature rest ih =>
    rw [someAreActive, Action.perform_bind, h.perform_isActive hvalue, Action.andThen_ok,
      Action.perform_ite, List.any_cons]
    cases hactive : (value feature).isActive with
    | true => rfl
    | false => exact ih (h.afterAll [feature]).1

/-- **The values of features** are what each of them comes out with. -/
theorem exists_perform_values (h : resolver.Swept source context origin s)
    (features : List String) :
    ∃ map : Std.ExtTreeMap String FeatureValue,
      (resolver.values features context).perform Store.memory source.membership s
          = (.ok map, resolver.afterAll source context features s)
        ∧ ∀ f, map[f]? = if f ∈ features then some (value f) else none := by
  refine ⟨_, ?_, fun f => getElem?_foldl_insert value features ∅ f⟩
  rw [values, Action.perform_bind, h.perform_mapM hvalue]
  rfl

end Answers

end Swept

/-- A map of the values of features tells of all features listed. -/
theorem all_toList {map : Std.ExtTreeMap String FeatureValue} {features : List String}
    {value : String → FeatureValue}
    (hmap : ∀ f, map[f]? = if f ∈ features then some (value f) else none)
    (test : FeatureValue → Bool) :
    map.toList.all (fun entry => test entry.2) = features.all fun f => test (value f) := by
  rw [Bool.eq_iff_iff, List.all_eq_true, List.all_eq_true]
  simp only [Prod.forall, Std.ExtTreeMap.mem_toList_iff_getElem?_eq_some, hmap,
    Option.ite_none_right_eq_some, Option.some.injEq, and_imp, forall_apply_eq_imp_iff]

/-- **Bulk queries agree with single ones, and do not depend on the order**, for any
definitions, cache and rows, and any source of membership that does not fail.

* The values of features are there for just the features listed, each of them what the
  feature comes out with by itself.
* The same features, listed in another order or more often, have the same values, and
  leave the same rows behind.
* Whether all or some of them are active is whether all or some of the values are.
* The values of all features are there for just the defined ones. -/
theorem bulk_queries_agree (resolver : Resolver) (source : Source) (s : State Rows)
    (hpure : s.world.closures.ArePure) (features : List String) (context : Context) :
    let perform {α : Type} (action : Action α) :=
      action.perform Store.memory source.membership s
    ∃ map t, perform (resolver.values features context) = (.ok map, t)
      ∧ (∀ feature, feature ∈ map ↔ feature ∈ features)
      ∧ (∀ feature value, map[feature]? = some value →
          (perform (resolver.resolve feature context)).1 = .ok value)
      ∧ (∀ features' : List String, (∀ feature, feature ∈ features' ↔ feature ∈ features) →
          ∃ t', perform (resolver.values features' context) = (.ok map, t')
            ∧ t'.world.store = t.world.store)
      ∧ (perform (resolver.allAreActive features context)).1
          = .ok (map.toList.all (·.2.isActive))
      ∧ (perform (resolver.someAreActive features context)).1
          = .ok (map.toList.any (·.2.isActive))
      ∧ ∃ every, (perform (resolver.all context)).1 = .ok every
        ∧ (∀ feature, feature ∈ every ↔
            ∃ definition, s.work.registry.get? feature = some definition)
        ∧ ∀ feature value, every[feature]? = some value →
            (perform (resolver.resolve feature context)).1 = .ok value := by
  intro perform
  have hstart : resolver.Swept source context s s := .refl hpure
  choose value t _ hvalue _ _ using hstart.exists_perform_resolve
  have hmem : ∀ {map : Std.ExtTreeMap String FeatureValue} {listed : List String},
      (∀ f, map[f]? = if f ∈ listed then some (value f) else none) →
      (∀ feature, feature ∈ map ↔ feature ∈ listed)
        ∧ ∀ feature v, map[feature]? = some v →
          (perform (resolver.resolve feature context)).1 = .ok v := by
    intro map listed hmap
    refine ⟨fun feature => ?_, fun feature v hv => ?_⟩
    · rw [Std.ExtTreeMap.mem_iff_isSome_getElem?, hmap]
      split <;> simp_all
    · rw [hmap, Option.ite_none_right_eq_some] at hv
      rw [← Option.some.inj hv.2]
      exact congrArg Prod.fst (hstart.perform_resolve hvalue feature)
  obtain ⟨map, hvalues, hmap⟩ := hstart.exists_perform_values hvalue features
  obtain ⟨every, hall, hevery⟩ := hstart.exists_perform_values hvalue s.work.registry.defined
  refine ⟨map, _, hvalues, (hmem hmap).1, (hmem hmap).2, ?_, ?_, ?_, every, ?_,
    fun feature => ((hmem hevery).1 feature).trans Registry.mem_defined, (hmem hevery).2⟩
  · intro features' hsame
    obtain ⟨map', hvalues', hmap'⟩ := hstart.exists_perform_values hvalue features'
    obtain rfl : map' = map := by
      refine Std.ExtTreeMap.ext_getElem? fun f => ?_
      rw [hmap', hmap]
      exact if_congr (hsame f) rfl rfl
    refine ⟨_, hvalues', (hstart.afterAll features').1.store_eq (hstart.afterAll features).1 ?_⟩
    exact fun f => ⟨hstart.settles_afterAll (fun g => (hsame g).mp) f,
      hstart.settles_afterAll (fun g => (hsame g).mpr) f⟩
  · rw [all_toList hmap FeatureValue.isActive]
    exact hstart.perform_allAreActive hvalue features
  · rw [List.any_eq_not_all_not, all_toList hmap (fun v => !v.isActive), ← List.any_eq_not_all_not]
    exact hstart.perform_someAreActive hvalue features
  · exact congrArg Prod.fst hall

/-- Two features that require each other, one that is required by another, and one that a
group is granted: asked for in some order with a repetition, and the other way round. -/
theorem bulk_queries_agree_of_reversed :
    let requiring (name : String) (required : List String) : Definition :=
      { Definition.ofRule name (.closure ⟨0⟩) with required }
    let registry : Registry := ⟨((((∅ : Std.ExtTreeMap String Definition).insert "base"
      (requiring "base" [])).insert "left" (requiring "left" ["base"])).insert "chicken"
      (requiring "chicken" ["egg"])).insert "egg" (requiring "egg" ["chicken"])⟩
    let groups := (Groups.empty.addMember "beta" "ada").grant "beta" "dark"
    let resolver : Resolver := ⟨.none, .standard, true, true, none⟩
    let rows : Rows := (∅ : Rows).insert ⟨"dark", resolver.keyUnder none (.group "beta")⟩
      (.bool true)
    let s : State Rows := ⟨.start registry none, .start .epoch rows ⟨[(.echo, 0)]⟩⟩
    let features := ["left", "egg", "dark", "base", "left"]
    let ada := Context.scalar "ada"
    let perform {α : Type} (action : Action α) :=
      action.perform Store.memory groups.source.membership s
    ∃ map t t', perform (resolver.values features ada) = (.ok map, t)
      ∧ perform (resolver.values features.reverse ada) = (.ok map, t')
      ∧ t'.world.store = t.world.store
      ∧ "egg" ∈ map ∧ "chicken" ∉ map := by
  intro requiring registry groups resolver rows s features ada perform
  have hpure : s.world.closures.ArePure := Closures.arePure_singleton Computation.isPure_echo 0
  obtain ⟨map, t, hvalues, hmem, -, hreordered, -⟩ :=
    bulk_queries_agree resolver groups.source s hpure features ada
  obtain ⟨t', hreversed, hstore⟩ := hreordered features.reverse fun _ => List.mem_reverse
  exact ⟨map, t, t', hvalues, hreversed, hstore, (hmem _).mpr (by decide),
    fun h => absurd ((hmem _).mp h) (by decide)⟩

end FeatureGate.Resolver
