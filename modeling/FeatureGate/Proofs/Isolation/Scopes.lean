import Mathlib.Data.List.Basic
import FeatureGate.Proofs.Correlation
import FeatureGate.Proofs.Gating.Base
import FeatureGate.Proofs.Resolution.Footprint

/-!
# An explicit scope and the ambient one

A context with a scope of its own has the same key whatever the ambient scope is, so
its own rows are the same. Its groups are another matter: a group is a context
without a scope of its own, and what is stored for it is looked up under the ambient
scope. So the ambient scope shows in what the context inherits, and in nothing else.
-/

namespace FeatureGate.Resolver

open Store (Rows)

/-! ## What is inherited under different scopes -/

section Inherited

variable {resolver : Resolver} {membership : Membership} {a b : Option Scope}
  {rows rows' : Rows} {feature key : String}

/-- The first group with an active row for a feature that it has decides. -/
theorem firstGranted_cons_activeRow (resolver : Resolver) (membership : Membership)
    (rows : Rows) (ambient : Option Scope) (feature group : String) (rest : List String) :
    resolver.firstGranted membership rows ambient feature (group :: rest)
      = (membership.featuresIn group).bind fun features =>
          match if features.contains feature then
            activeRow rows feature (resolver.keyUnder ambient (.group group)) else none with
          | some value => .ok (some value)
          | none => resolver.firstGranted membership rows ambient feature rest := by
  rw [firstGranted_cons]
  refine congrArg _ (funext fun features => ?_)
  by_cases hfeature : features.contains feature
  · simp only [if_pos hfeature]
    unfold activeRow
    cases rows.get? feature (resolver.keyUnder ambient (.group group)) with
    | none => rfl
    | some payload =>
      cases hv : FeatureValue.ofPayload payload <;>
        simp [hv, FeatureValue.isActive, Option.filter]
  · simp only [if_neg hfeature]

theorem firstGranted_eq_of_activeRow {groups : List String}
    (h : ∀ group ∈ groups, ∀ features, membership.featuresIn group = .ok features →
      feature ∈ features → activeRow rows feature (resolver.keyUnder a (.group group))
        = activeRow rows' feature (resolver.keyUnder b (.group group))) :
    resolver.firstGranted membership rows a feature groups
      = resolver.firstGranted membership rows' b feature groups := by
  induction groups with
  | nil => rfl
  | cons group rest ih =>
    rw [firstGranted_cons_activeRow, firstGranted_cons_activeRow,
      ih fun other hother => h other (List.mem_cons_of_mem _ hother)]
    cases hfeatures : membership.featuresIn group with
    | error e => rfl
    | ok features =>
      by_cases hfeature : features.contains feature
      · simp only [if_pos hfeature, Except.bind, h group List.mem_cons_self features hfeatures
          (List.contains_iff_mem.mp hfeature)]
      · simp only [if_neg hfeature, Except.bind]

/-- **What is inherited depends on the active values of groups only**: those of the
groups of the key that have the feature. -/
theorem inherited_eq_of_activeRow
    (h : ∀ group, resolver.GrantedBy membership key feature group →
      activeRow rows feature (resolver.keyUnder a (.group group))
        = activeRow rows' feature (resolver.keyUnder b (.group group))) :
    resolver.inherited membership rows a feature key
      = resolver.inherited membership rows' b feature key := by
  unfold inherited
  split
  · rename_i hconsults
    cases hgroups : membership.groupsFor key with
    | error e => rfl
    | ok groups =>
      exact firstGranted_eq_of_activeRow fun group hgroup features hfeatures hfeature =>
        h group ⟨hconsults, groups, features, hgroups, hgroup, hfeatures, hfeature⟩
  · rfl

end Inherited

/-! ## Runs under different scopes -/

/-- **States that differ in the ambient scope only**, and in what was reported. For
some features, a context key has an active row of its own, or inherits the same. -/
structure Rescoped (resolver : Resolver) (membership : Membership) (registry : Registry)
    (a b : Option Scope) (key : String) (among : String → Prop) (s t : State Rows) : Prop where
  /-- The ambient scope of the one. -/
  ambient : s.work.ambient = a
  /-- The definitions. -/
  registered : s.work.registry = registry
  /-- The unit of work of the other is the same, under another scope. -/
  work : t.work = { s.work with ambient := b }
  /-- The rows are the same. -/
  store : t.world.store = s.world.store
  /-- The clock is the same. -/
  now : t.world.now = s.world.now
  /-- The closures are the same, and were called as often. -/
  closures : t.world.closures = s.world.closures
  /-- The scopes make no difference to what counts of the groups. -/
  inherited {feature : String} : among feature →
    activeRow s.world.store feature key = none →
    resolver.inherited membership s.world.store a feature key
      = resolver.inherited membership s.world.store b feature key

namespace Rescoped

variable {resolver : Resolver} {membership : Membership} {registry : Registry}
  {a b : Option Scope} {key : String} {among : String → Prop} {s s' t t' : State Rows}
  {feature : String}

theorem correlated :
    Correlated (Rescoped resolver membership registry a b key among) where
  now h := h.now.symm
  guard h := by rw [h.work]
  registry h := by rw [h.work]
  within guard h := ⟨h.ambient, h.registered, congrArg (fun work => { work with guard }) h.work,
    h.store, h.now, h.closures, h.inherited⟩
  quiet h hs ht := ⟨by rw [hs.work, h.ambient], by rw [hs.work, h.registered],
    by rw [hs.work, ht.work, h.work], by rw [hs.store, ht.store, h.store],
    by rw [hs.now, ht.now, h.now], by rw [hs.closures, ht.closures, h.closures],
    hs.store ▸ h.inherited⟩

theorem kept (h : Rescoped resolver membership registry a b key among s t)
    (value : FeatureValue) (isDefined : Bool) :
    Rescoped resolver membership registry a b key among
      (s.kept resolver feature key value isDefined)
      (t.kept resolver feature key value isDefined) := by
  refine ⟨by simp [h.ambient], by simp [h.registered], by simp [h.work], by simp [h.store],
    by simp [h.now], by simp [h.closures], ?_⟩
  rw [State.store_kept]
  exact h.inherited

/-- A first write makes the feature active for the key itself, or nobody sees it. -/
theorem firstWritten (h : Rescoped resolver membership registry a b key among s t)
    (hrow : s.world.store.get? feature key = none) (definition : Definition)
    (context : Context) :
    Rescoped resolver membership registry a b key among
      (s.firstWritten definition feature context key)
      (t.firstWritten definition feature context key) := by
  refine ⟨h.ambient, h.registered, h.work, ?_, h.now, ?_, fun {other} hamong hinactive => ?_⟩
  · simp only [State.firstWritten, h.store, h.closures]
  · simp only [State.firstWritten, h.closures]
  · unfold State.firstWritten at hinactive ⊢
    dsimp only at hinactive ⊢
    -- a row that is not active is as good as none, for this key and for that of any group
    have hsame : ∀ key', activeRow (s.world.store.insert ⟨feature, key⟩
        (s.world.closures.firstPayload definition context key).1) other key'
          = activeRow s.world.store other key' := by
      refine activeRow_insert ?_
      rintro rfl
      refine ⟨hrow, ?_⟩
      simpa [activeRow, Rows.get?_insert] using hinactive
    have hinherited : ∀ ambient, resolver.inherited membership (s.world.store.insert
        ⟨feature, key⟩ (s.world.closures.firstPayload definition context key).1) ambient other key
          = resolver.inherited membership s.world.store ambient other key :=
      fun ambient => inherited_eq_of_activeRow fun group _ => hsame _
    rw [hinherited, hinherited]
    exact h.inherited hamong (hsame key ▸ hinactive)

/-- **An own value** is completed alike under both scopes. -/
theorem completed_eq (h : Rescoped resolver membership registry a b key among s t)
    (hamong : among feature) {own : FeatureValue}
    (hown : own.isActive = false → activeRow s.world.store feature key = none) :
    completed own (resolver.inherited membership s.world.store s.work.ambient feature key)
      = completed own
          (resolver.inherited membership t.world.store t.work.ambient feature key) := by
  unfold completed
  rw [h.work, h.store, h.ambient]
  dsimp only
  split
  · rfl
  · rename_i hinactive
    rw [h.inherited hamong (hown (by simpa using hinactive))]

/-- Once the own values are known, the rest comes out alike. -/
theorem resolveOpen_of_own {context : Context} {definition : Option Definition}
    {own : FeatureValue} (hamong : among feature)
    (hcache : s.work.cache.get? feature key = none)
    (hcache' : t.work.cache.get? feature key = none)
    (hleft : (resolver.readOrInitialize feature context key definition).perform Store.memory
      membership s = (.ok own, s'))
    (hright : (resolver.readOrInitialize feature context key definition).perform Store.memory
      membership t = (.ok own, t'))
    (h : Rescoped resolver membership registry a b key among s' t')
    (hown : own.isActive = false → activeRow s'.world.store feature key = none) :
    ((resolver.resolveOpen feature context key definition).perform Store.memory membership s).1
        = ((resolver.resolveOpen feature context key definition).perform Store.memory
            membership t).1
      ∧ Rescoped resolver membership registry a b key among
          ((resolver.resolveOpen feature context key definition).perform Store.memory
            membership s).2
          ((resolver.resolveOpen feature context key definition).perform Store.memory
            membership t).2 := by
  rw [Action.perform_resolveOpen_of_own resolver hcache hleft,
    Action.perform_resolveOpen_of_own resolver hcache' hright, ← h.completed_eq hamong hown]
  split
  · exact ⟨rfl, h⟩
  · exact ⟨rfl, h.kept _ _⟩

/-- **Resolving an open feature** comes out alike under both scopes. -/
theorem respects_resolveOpen (hamong : among feature) (context : Context) :
    Respects Store.memory membership (Rescoped resolver membership registry a b key among)
      (resolver.resolveOpen feature context key (registry.get? feature)) := by
  intro s t h
  cases hcache : s.work.cache.get? feature key with
  | some value =>
    rw [Action.perform_resolveOpen_of_cached resolver hcache,
      Action.perform_resolveOpen_of_cached resolver (by rwa [h.work])]
    exact ⟨rfl, h⟩
  | none =>
    have hcache' : t.work.cache.get? feature key = none := by rwa [h.work]
    cases hown : persisted? registry s.world.store feature key with
    | some own =>
      obtain ⟨s', hleft, hs⟩ := Action.exists_perform_readOrInitialize resolver
        (by rwa [h.registered]) context
      obtain ⟨t', hright, ht⟩ := Action.exists_perform_readOrInitialize resolver
        (by rwa [h.work, h.registered, h.store]) context
      rw [h.registered] at hleft
      rw [h.work, h.registered] at hright
      refine resolveOpen_of_own hamong hcache hcache' hleft hright
        (correlated.quiet h hs ht) fun hinactive => ?_
      rw [hs.store]
      unfold persisted? at hown
      unfold activeRow
      cases hrow : s.world.store.get? feature key with
      | none => rfl
      | some payload =>
        rw [hrow] at hown
        cases hown
        simp [hinactive]
    | none =>
      -- neither has a row, so both write the same first one
      obtain ⟨hrow, definition, hdef⟩ := eq_none_of_persisted?_eq_none hown
      have hright : (resolver.readOrInitialize feature context key (some definition)).perform
            Store.memory membership t
          = (.ok (.ofPayload (s.world.closures.firstPayload definition context key).1),
              t.firstWritten definition feature context key) := by
        rw [← h.closures]
        exact Action.perform_readOrInitialize_defined resolver (h.store.symm ▸ hrow) context _
      rw [hdef]
      refine resolveOpen_of_own hamong hcache hcache'
        (Action.perform_readOrInitialize_defined resolver hrow context definition) hright
        (h.firstWritten hrow definition context) fun hinactive => ?_
      simp [State.firstWritten, activeRow, Rows.get?_insert, hinactive]

theorem opens {context : Context} (ha : resolver.keyUnder a context = key)
    (hb : resolver.keyUnder b context = key)
    (hclosed : ∀ feature, among feature → ∀ needed, registry.Needs feature needed → among needed) :
    Respects.Opens Store.memory membership (Rescoped resolver membership registry a b key among)
      resolver context among where
  toCorrelated := correlated
  key h := by rw [h.work, h.ambient, ha, hb]
  required {feature _ _ definition} hamong h hdef r hr :=
    hclosed feature hamong r (.single ⟨definition, h.registered ▸ hdef, hr⟩)
  resolveOpen hamong h := by
    rw [h.ambient, ha, h.registered]
    exact respects_resolveOpen hamong context

end Rescoped

/-- A context with a scope of its own has one key under all ambient scopes. -/
theorem keyUnder_of_scope (resolver : Resolver) {context : Context} (h : context.scope.isSome)
    (a b : Option Scope) : resolver.keyUnder a context = resolver.keyUnder b context := by
  obtain ⟨scope, hscope⟩ := Option.isSome_iff_exists.mp h
  unfold keyUnder Aliases.key
  rw [hscope, Option.some_or, Option.some_or]

/-- **An explicit scope counts more than the ambient one.** A feature comes out the
same for a context with a scope of its own under any two ambient scopes, if the groups
that grant the context a feature have the same active value of it under both, wherever
the context has no active value of its own. This is asked of the feature and of those
it requires, directly or through others, and it is so in particular where no groups are
consulted, and where none of them has rows. -/
theorem resolve_eq_of_explicit_scope (resolver : Resolver) (membership : Membership)
    (registry : Registry) (world : World Rows) (feature : String) (context : Context)
    (a b : Option Scope) (hscope : context.scope.isSome)
    (hgroups : ∀ needed, registry.Needs feature needed →
      activeRow world.store needed (resolver.keyUnder a context) = none → ∀ group,
      resolver.GrantedBy membership (resolver.keyUnder a context) needed group →
      activeRow world.store needed (resolver.keyUnder a (.group group))
        = activeRow world.store needed (resolver.keyUnder b (.group group))) :
    ((resolver.resolve feature context).perform Store.memory membership
        ⟨.start registry a, world⟩).1
      = ((resolver.resolve feature context).perform Store.memory membership
        ⟨.start registry b, world⟩).1 := by
  have hopens : Respects.Opens Store.memory membership (Rescoped resolver membership registry a b
      (resolver.keyUnder a context) (registry.Needs feature)) resolver context
        (registry.Needs feature) :=
    Rescoped.opens rfl (resolver.keyUnder_of_scope hscope b a) fun _ h _ h' => h.trans h'
  refine (hopens.resolve .refl _ _ ?_).1
  exact ⟨rfl, rfl, rfl, rfl, rfl, rfl, fun hneeds hinactive =>
    inherited_eq_of_activeRow (hgroups _ hneeds hinactive)⟩

/-- A user of one tenant is a member of a group that two other tenants have the same
value stored for, and inherits it under the scope of either. The feature requires
another one, which only one of these tenants has switched on for the group; it is on for
the user themselves. -/
theorem resolve_eq_of_explicit_scope_tenants :
    let tenant (id : String) := (Scope.ofKind "tenant").constrain "id" (.string id)
    let ada := (Context.scalar "ada").inScope (tenant "1")
    let resolver : Resolver := ⟨.none, .standard, true, true, none⟩
    let groups := ((Groups.empty.addMember "beta" (resolver.keyUnder none ada)).grant
      "beta" "dark").grant "beta" "base"
    let registry : Registry := ⟨((∅ : Std.ExtTreeMap String Definition).insert "dark"
      { Definition.ofRule "dark" (.constant (.bool false)) with required := ["base"] }).insert
        "base" (.ofRule "base" (.constant (.bool false)))⟩
    let groupKey (id : String) := resolver.keyUnder (some (tenant id)) (.group "beta")
    let rows : Rows := ((((∅ : Rows).insert ⟨"dark", groupKey "2"⟩ (.string "red")).insert
      ⟨"dark", groupKey "3"⟩ (.string "red")).insert ⟨"base", groupKey "2"⟩ (.bool true)).insert
        ⟨"base", resolver.keyUnder none ada⟩ (.bool true)
    let world : World Rows := .start .epoch rows .empty
    ((resolver.resolve "dark" ada).perform Store.memory groups.membership
        ⟨.start registry (some (tenant "2")), world⟩).1
      = ((resolver.resolve "dark" ada).perform Store.memory groups.membership
        ⟨.start registry (some (tenant "3")), world⟩).1 := by
  intro tenant ada resolver groups registry groupKey rows world
  refine resolve_eq_of_explicit_scope resolver groups.membership registry world "dark" ada
    (some (tenant "2")) (some (tenant "3")) rfl fun needed _ hinactive group hgranted => ?_
  obtain ⟨-, joined, features, hjoined, hgroup, hfeatures, hfeature⟩ := hgranted
  have hbeta : groups.groupsFor (resolver.keyUnder (some (tenant "2")) ada) = ["beta"] := by
    decide +kernel
  have hgrants : groups.featuresIn "beta" = ["base", "dark"] := by decide +kernel
  obtain rfl : ["beta"] = joined := hbeta ▸ Except.ok.inj hjoined
  obtain rfl := List.mem_singleton.mp hgroup
  obtain rfl : ["base", "dark"] = features := hgrants ▸ Except.ok.inj hfeatures
  rcases List.mem_pair.mp hfeature with rfl | rfl
  · -- the value that the user has of their own counts, so the group is not asked for one
    have hown : activeRow rows "base" (resolver.keyUnder (some (tenant "2")) ada) ≠ none := by
      decide +kernel
    exact absurd hinactive hown
  · decide +kernel

/-- **The ambient scope shows through groups.** A user of one tenant is a member of a
group for which another tenant switched a feature on. Under the scope of that other
tenant the feature is on for the user, and without an ambient scope it is off. -/
theorem resolve_depends_on_ambient_scope :
    let tenant := (Scope.ofKind "tenant").constrain "id" (.string "1")
    let other := (Scope.ofKind "tenant").constrain "id" (.string "2")
    let ada := (Context.scalar "ada").inScope tenant
    let resolver : Resolver := ⟨.none, .standard, true, true, none⟩
    let groups := (Groups.empty.addMember "beta" (resolver.keyUnder none ada)).grant "beta" "dark"
    let registry : Registry := ⟨(∅ : Std.ExtTreeMap String Definition).insert "dark"
      (.ofRule "dark" (.constant (.bool false)))⟩
    let rows : Rows := (∅ : Rows).insert
      ⟨"dark", resolver.keyUnder (some other) (.group "beta")⟩ (.bool true)
    let world : World Rows := .start .epoch rows .empty
    ((resolver.resolve "dark" ada).perform Store.memory groups.membership
        ⟨.start registry none, world⟩).1 = .ok .inactive
      ∧ ((resolver.resolve "dark" ada).perform Store.memory groups.membership
        ⟨.start registry (some other), world⟩).1 = .ok .on := by
  decide +kernel

end FeatureGate.Resolver
