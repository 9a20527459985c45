import FeatureGate.Proofs.Caching.Transparency
import FeatureGate.Proofs.Gating.Queries
import FeatureGate.Proofs.Requests

/-!
# Loading is only a warm-up

Values are loaded into the cache so that they are there once they are asked for. What the
store answered to the batched read is used up pair by pair, and in between features may be
resolved, rows written and entries of the cache forgotten. Nobody can tell afterwards, but
for what is cached: every feature comes out for every context as it would have done
(`Resolver.load_warms_up`).

This is shown of one state at a time. A state is *warmed* from an origin (`Warmed`) if its
cache is faithful and each own value is the one of the origin. Without groups, an own value
is all that a gate depends on, so the gates are those of the origin (`Warmed.gates`). A pair
whose gate holds is in the cache once it was settled, and stays there, since whoever forgets
it resolves it again: for the same context, or for another one with the same key, which the
closures cannot tell apart.
-/

namespace FeatureGate.Resolver

open Store (Rows)

variable {resolver : Resolver}

/-- **With a faithful cache and without groups**, an open feature comes out as its own
value. -/
theorem Faithful.baseValue_eq {source : Source} {s : State Rows}
    (h : resolver.Faithful source.membership s) (hgroups : resolver.consultsGroups = false)
    (context : Context) (feature : String) :
    resolver.baseValue source context s feature
      = ownValue s context feature (resolver.keyUnder s.work.ambient context) := by
  unfold baseValue
  dsimp only
  cases hcache : s.work.cache.get? feature (resolver.keyUnder s.work.ambient context) with
  | some value =>
    obtain ⟨own, hown, hvalue⟩ := h feature _ value hcache
    rw [completed_of_no_groups hgroups] at hvalue
    rw [ownValue_of_persisted? hown, Except.ok.inj hvalue]
  | none =>
    -- nothing is granted
    simp [granted, hgroups]

/-! ## Warmed states -/

/-- **A state that warming up leads to** from an origin. -/
structure Warmed (resolver : Resolver) (membership : Membership) (origin s : State Rows) : Prop
    extends origin.Later s where
  /-- The clock is the same. -/
  now : s.world.now = origin.world.now
  /-- The cache is faithful. -/
  faithful : resolver.Faithful membership s
  /-- The closures are functions of the context. -/
  pure : s.world.closures.ArePure
  /-- First payloads are the same. -/
  payload (definition : Definition) (context : Context) (key : String) :
    (s.world.closures.firstPayload definition context key).1
      = (origin.world.closures.firstPayload definition context key).1
  /-- Own values are the same. -/
  own (context : Context) (feature : String) :
    ownValue s context feature (resolver.keyUnder origin.work.ambient context)
      = ownValue origin context feature (resolver.keyUnder origin.work.ambient context)

namespace Warmed

variable {membership : Membership} {source : Source} {origin s t : State Rows}

theorem refl (hfaithful : resolver.Faithful membership s) (hpure : s.world.closures.ArePure) :
    resolver.Warmed membership s s :=
  ⟨.refl s, rfl, hfaithful, hpure, fun _ _ _ => rfl, fun _ _ => rfl⟩

/-- What is cached does not matter, as long as it is faithful. -/
theorem of_twin (h : resolver.Warmed membership origin s) (hst : s.Twin t)
    (hfaithful : resolver.Faithful membership t) : resolver.Warmed membership origin t where
  toLater := h.toLater.of_twin hst
  now := hst.now.trans h.now
  faithful := hfaithful
  pure := by rw [hst.closures]; exact h.pure
  payload definition context key := by rw [hst.closures, h.payload]
  own context feature := by
    rw [← h.own]
    unfold ownValue
    rw [hst.store, hst.registry, hst.closures]

theorem of_quiet (h : resolver.Warmed membership origin s) (hst : s.Quiet t) :
    resolver.Warmed membership origin t :=
  h.of_twin (.of_quiet hst) (h.faithful.of_quiet hst)

theorem within (h : resolver.Warmed membership origin s) (guard : Guard) :
    resolver.Warmed membership origin (s.within guard) :=
  { h with }

/-- A value may be kept if it comes out without the cache. -/
theorem put (h : resolver.Warmed membership origin s) {feature key : String}
    {value : FeatureValue} (hvalue : resolver.Recurs membership s feature key value) :
    resolver.Warmed membership origin
      ⟨{ s.work with cache := s.work.cache.put feature key value }, s.world⟩ :=
  h.of_twin (.recached s _) (h.faithful.put hvalue)

/-- A value may always be forgotten. -/
theorem forget (h : resolver.Warmed membership origin s) (feature key : String) :
    resolver.Warmed membership origin
      ⟨{ s.work with cache := s.work.cache.forget feature key }, s.world⟩ :=
  h.of_twin (.recached s _) (h.faithful.forget feature key)

/-- **Gates do not change** while states are warmed. -/
theorem gates (h : resolver.Warmed source.membership origin s)
    (horigin : resolver.Faithful source.membership origin)
    (hgroups : resolver.consultsGroups = false) (context : Context) :
    resolver.gates source context s = resolver.gates source context origin := by
  have hbase : resolver.baseValue source context s
      = resolver.baseValue source context origin := by
    funext feature
    rw [h.faithful.baseValue_eq hgroups, horigin.baseValue_eq hgroups, h.ambient, h.own]
  unfold Resolver.gates
  rw [h.registry, h.now, hbase]

end Warmed

/-! ## Contexts with the same key -/

section Keyed

variable {source : Source} {origin : State Rows} {context other : Context}
  (hkeyed : origin.world.closures.AreKeyed (resolver.keyUnder origin.work.ambient))
  (hkey : resolver.keyUnder origin.work.ambient context
    = resolver.keyUnder origin.work.ambient other)
include hkeyed hkey

theorem ownValue_congr (feature key : String) :
    ownValue origin context feature key = ownValue origin other feature key := by
  unfold ownValue
  cases origin.world.store.get? feature key with
  | some payload => rfl
  | none =>
    cases origin.work.registry.get? feature with
    | none => rfl
    | some definition =>
      dsimp only
      rw [hkeyed.firstPayload_congr hkey]

/-- **Contexts with the same key** have the same gates, if closures see the key only. -/
theorem gates_congr :
    resolver.gates source context origin = resolver.gates source other origin := by
  have hbase : resolver.baseValue source context origin
      = resolver.baseValue source other origin := by
    funext feature
    unfold baseValue
    rw [hkey]
    simp only [ownValue_congr hkeyed hkey]
  unfold Resolver.gates
  rw [hbase]

end Keyed

/-! ## Resolutions from warmed states -/

namespace Warmed

/-- **Two warmed states** with the same frames in flight. -/
structure Both (resolver : Resolver) (membership : Membership) (origin s t : State Rows) :
    Prop where
  /-- The one is warmed. -/
  left : resolver.Warmed membership origin s
  /-- The other is warmed. -/
  right : resolver.Warmed membership origin t
  /-- The same frames are in flight. -/
  guard : s.work.guard = t.work.guard

variable {source : Source} {origin s t : State Rows}
  (hgroups : resolver.consultsGroups = false)
  (hkeyed : origin.world.closures.AreKeyed (resolver.keyUnder origin.work.ambient))
include hgroups hkeyed

/-- **A first write** is what would be computed for any context with the key. -/
theorem firstWritten (h : resolver.Warmed source.membership origin s) {feature : String}
    {context : Context} {definition : Definition}
    (hrow : s.world.store.get? feature (resolver.keyUnder origin.work.ambient context) = none)
    (hdef : s.work.registry.get? feature = some definition) :
    resolver.Warmed source.membership origin (s.firstWritten definition feature context
      (resolver.keyUnder origin.work.ambient context)) where
  toLater := h.toLater.firstWritten hrow definition context
  now := h.now
  faithful := h.faithful.firstWritten hrow hdef (isApart_of_no_groups hgroups _ _ _) context
  pure := h.pure.firstPayload definition context _
  payload other other' key := by
    rw [← h.payload]
    exact h.pure.firstPayload_firstPayload ..
  own other f := by
    rw [← h.own]
    unfold ownValue State.firstWritten
    simp only [Rows.get?_insert, h.pure.firstPayload_firstPayload]
    by_cases hat : feature = f ∧ resolver.keyUnder origin.work.ambient context
      = resolver.keyUnder origin.work.ambient other
    · obtain ⟨rfl, hkey⟩ := hat
      rw [if_pos ⟨rfl, hkey⟩, ← hkey, hrow, hdef]
      simp only [h.payload, hkeyed.firstPayload_congr hkey]
    · rw [if_neg hat]

/-- **Resolving an open feature** gives its own value, and leads on. -/
theorem exists_perform_resolveOpen (h : resolver.Warmed source.membership origin s)
    (feature : String) (context : Context) :
    ∃ t, (resolver.resolveOpen feature context (resolver.keyUnder origin.work.ambient context)
          (origin.work.registry.get? feature)).perform Store.memory source.membership s
        = (.ok (ownValue origin context feature
            (resolver.keyUnder origin.work.ambient context)), t)
      ∧ resolver.Warmed source.membership origin t ∧ t.work.guard = s.work.guard := by
  rw [← h.own, ← h.registry]
  cases hown : persisted? s.work.registry s.world.store feature
    (resolver.keyUnder origin.work.ambient context) with
  | some own =>
    obtain ⟨t, hperform, htwin, hfaithful⟩ := h.faithful.exists_perform_resolveOpen hown context
    rw [completed_of_no_groups hgroups] at hperform
    rw [ownValue_of_persisted? hown]
    exact ⟨t, hperform, h.of_twin htwin hfaithful, htwin.guard⟩
  | none =>
    obtain ⟨hrow, definition, hdef⟩ := eq_none_of_persisted?_eq_none hown
    obtain ⟨t, hperform, htwin, hfaithful⟩ := h.faithful.exists_perform_resolveOpen_defined
      hrow hdef (isApart_of_no_groups hgroups _ _ _) context
    rw [completed_of_no_groups hgroups] at hperform
    refine ⟨t, ?_, (h.firstWritten hgroups hkeyed hrow hdef).of_twin htwin hfaithful, htwin.guard⟩
    rw [hperform]
    simp only [ownValue, hrow, hdef]

omit hgroups hkeyed in
theorem Both.correlated (resolver : Resolver) (membership : Membership) (origin : State Rows) :
    Correlated (Both resolver membership origin) where
  now h := h.left.now.trans h.right.now.symm
  guard h := h.guard
  registry h := h.left.registry.trans h.right.registry.symm
  within guard h := ⟨h.left.within guard, h.right.within guard, rfl⟩
  quiet h hs ht := ⟨h.left.of_quiet hs, h.right.of_quiet ht, by rw [hs.work, ht.work, h.guard]⟩

/-- **Open features are resolved alike** from warmed states. -/
theorem opens (context : Context) :
    Respects.Opens Store.memory source.membership (Both resolver source.membership origin)
      resolver context fun _ => True where
  toCorrelated := Both.correlated ..
  key h := by rw [h.left.ambient, h.right.ambient]
  required _ _ _ _ _ := trivial
  resolveOpen {feature s₀ _} _ h₀ s t h := by
    obtain ⟨s', hs, hleft, hguard⟩ :=
      h.left.exists_perform_resolveOpen hgroups hkeyed feature context
    obtain ⟨t', ht, hright, hguard'⟩ :=
      h.right.exists_perform_resolveOpen hgroups hkeyed feature context
    rw [h₀.left.ambient, h₀.left.registry, hs, ht]
    exact ⟨rfl, hleft, hright, by rw [hguard, hguard', h.guard]⟩

/-- **Resolving a feature** from a warmed state answers as the gates of the origin say, and
leads on. It forgets nothing, and what is open is cached then. -/
theorem exists_perform_resolve (h : resolver.Warmed source.membership origin s)
    (horigin : resolver.Faithful source.membership origin) (feature : String)
    (context : Context) :
    ∃ value t, (resolver.resolve feature context).perform Store.memory source.membership s
        = (.ok value, t)
      ∧ (resolver.gates source context origin).Answers feature value
      ∧ resolver.Warmed source.membership origin t
      ∧ ((resolver.gates source context origin).Holds feature →
          t.work.cache.contains feature (resolver.keyUnder origin.work.ambient context))
      ∧ ∀ f k, s.work.cache.contains f k → t.work.cache.contains f k := by
  obtain ⟨value, t, hperform, hanswers, -, hsettles⟩ :=
    resolver.exists_perform_resolve source h.pure feature context
  have hgates := h.gates horigin hgroups context
  have hrespects : Respects Store.memory source.membership (Both resolver source.membership origin)
      (resolver.resolve feature context) := (opens hgroups hkeyed context).resolve trivial
  have hwarmed := (hrespects s s ⟨h, h, rfl⟩).2.left
  have hswept : resolver.Swept source context s s := .refl h.pure
  obtain ⟨_, _, hperform', -, -, hafter⟩ := hswept.exists_perform_resolve feature
  rw [hperform] at hwarmed hperform'
  cases hperform'
  unfold State.Settles at hsettles
  rw [hgates, hwarmed.ambient] at hsettles
  exact ⟨value, t, hperform, hgates ▸ hanswers, hwarmed, hsettles, fun _ _ => hafter.cached⟩

/-! ## Settling -/

/-- **Settling a pair** with what its row was at the origin leads on. If its gate holds, the
pair is cached then, and so is any other one that was. -/
theorem exists_perform_settle (h : resolver.Warmed source.membership origin s)
    (horigin : resolver.Faithful source.membership origin) (feature : String)
    (context : Context) :
    ∃ t, (resolver.settle feature context (resolver.keyUnder origin.work.ambient context)
          (origin.world.store.get? feature
            (resolver.keyUnder origin.work.ambient context))).perform
            Store.memory source.membership s = (.ok (), t)
      ∧ resolver.Warmed source.membership origin t
      ∧ ((resolver.gates source context origin).Holds feature →
          t.work.cache.contains feature (resolver.keyUnder origin.work.ambient context))
      ∧ ∀ f c, (resolver.gates source c origin).Holds f →
          s.work.cache.contains f (resolver.keyUnder origin.work.ambient c) →
          t.work.cache.contains f (resolver.keyUnder origin.work.ambient c) := by
  unfold Resolver.settle
  split
  · -- an active row is kept as it is, for it is there still
    rename_i payload hactive
    obtain ⟨row, hrow, hvalue⟩ := Option.map_eq_some_iff.mp hactive
    refine ⟨_, Action.perform_modifyCache .., h.put ⟨.active payload, ?_, ?_⟩, fun _ => ?_,
      fun f c _ hcached => ?_⟩
    · unfold persisted?
      rw [h.row hrow, ← hvalue]
    · exact completed_of_no_groups hgroups ..
    · simp [Cache.contains, Cache.get?_put]
    · unfold Cache.contains at hcached ⊢
      rw [Cache.get?_put]
      split
      · rfl
      · exact hcached
  · -- any other pair is forgotten and resolved
    rw [Action.perform_bind, Action.perform_modifyCache, Action.andThen_ok, Action.perform_bind]
    obtain ⟨value, t, hperform, -, ht, hopen, hkept⟩ :=
      (h.forget feature (resolver.keyUnder origin.work.ambient context)).exists_perform_resolve
        hgroups hkeyed horigin feature context
    rw [hperform]
    refine ⟨t, rfl, ht, hopen, fun f c hholds hcached => ?_⟩
    by_cases hat : feature = f
      ∧ resolver.keyUnder origin.work.ambient context = resolver.keyUnder origin.work.ambient c
    · obtain ⟨rfl, hkey⟩ := hat
      rw [← hkey]
      exact hopen (gates_congr hkeyed hkey ▸ hholds)
    · refine hkept f _ ?_
      unfold Cache.contains at hcached ⊢
      rw [Cache.get?_forget, if_neg hat]
      exact hcached

/-- **Settling pairs** leads on, one after the other. -/
theorem exists_perform_settleAll (h : resolver.Warmed source.membership origin s)
    (horigin : resolver.Faithful source.membership origin)
    {pairs : List (String × Context × String)}
    (hpairs : ∀ pair ∈ pairs, pair.2.2 = resolver.keyUnder origin.work.ambient pair.2.1) :
    ∃ t, (resolver.settleAll origin.world.store pairs).perform Store.memory source.membership s
        = (.ok (), t)
      ∧ resolver.Warmed source.membership origin t
      ∧ ∀ f c, (resolver.gates source c origin).Holds f →
          (∃ pair ∈ pairs, pair.1 = f ∧ pair.2.1 = c)
            ∨ s.work.cache.contains f (resolver.keyUnder origin.work.ambient c) →
          t.work.cache.contains f (resolver.keyUnder origin.work.ambient c) := by
  induction pairs generalizing s with
  | nil => exact ⟨s, rfl, h, fun f c _ hcached => by simpa using hcached⟩
  | cons pair rest ih =>
    rw [List.forall_mem_cons] at hpairs
    obtain ⟨t, hperform, ht, hopen, hkept⟩ :=
      h.exists_perform_settle hgroups hkeyed horigin pair.1 pair.2.1
    obtain ⟨u, hrest, hu, hcached⟩ := ih ht hpairs.2
    refine ⟨u, ?_, hu, fun f c hholds hwhich => hcached f c hholds ?_⟩
    · show (resolver.settle _ _ _ _ >>= fun _ =>
        resolver.settleAll origin.world.store rest : Action Unit).perform _ _ _ = _
      rw [hpairs.1, Action.perform_bind, hperform, Action.andThen_ok, hrest]
    · rcases hwhich with ⟨other, hmem, rfl, rfl⟩ | hbefore
      · rcases List.mem_cons.mp hmem with rfl | hmem
        · exact .inr (hopen hholds)
        · exact .inl ⟨other, hmem, rfl, rfl⟩
      · exact .inr (hkept f c hholds hbefore)

omit hkeyed in
/-- **Loading** leads on, and caches every pair whose gate holds: it is settled, or it was
skipped because it was cached. -/
theorem exists_perform_loadWith {s : State Rows}
    (hkeyed : s.world.closures.AreKeyed (resolver.keyUnder s.work.ambient))
    (hfaithful : resolver.Faithful source.membership s) (skipCached : Bool)
    (features : List String) (contexts : List Context) :
    ∃ t, (resolver.loadWith skipCached features contexts).perform
          Store.memory source.membership s = (.ok (), t)
      ∧ resolver.Warmed source.membership s t
      ∧ ∀ feature ∈ features, ∀ context ∈ contexts,
          (resolver.gates source context s).Holds feature →
          t.work.cache.contains feature (resolver.keyUnder s.work.ambient context) := by
  have hstart : resolver.Warmed source.membership s s := .refl hfaithful hkeyed.arePure
  have hkeys : ∀ pair ∈ s.toLoad resolver skipCached features contexts,
      pair.2.2 = resolver.keyUnder s.work.ambient pair.2.1 :=
    fun pair hpair => (State.exists_of_mem_toLoad hpair).2
  obtain ⟨t, hperform, ht, hcached⟩ :=
    hstart.exists_perform_settleAll hgroups hkeyed hfaithful hkeys
  rw [Action.perform_loadWith]
  refine ⟨t, hperform, ht, fun feature hfeature context hcontext hholds => ?_⟩
  refine hcached feature context hholds ?_
  exact (State.mem_toLoad_or_contains skipCached hfeature hcontext).imp_left fun hmem =>
    ⟨_, hmem, rfl, rfl⟩

/-- **Features that are resolved one after another** come out as the gates of the origin
say. -/
theorem exists_perform_mapM_resolve (h : resolver.Warmed source.membership origin s)
    (horigin : resolver.Faithful source.membership origin)
    {value : String → Context → FeatureValue}
    (hvalue : ∀ f c, (resolver.gates source c origin).Answers f (value f c))
    (asked : List (String × Context)) :
    ∃ t, (asked.mapM fun pair => resolver.resolve pair.1 pair.2 : Action _).perform
        Store.memory source.membership s
      = (.ok (asked.map fun pair => value pair.1 pair.2), t) := by
  induction asked generalizing s with
  | nil => exact ⟨s, rfl⟩
  | cons pair rest ih =>
    obtain ⟨v, t, hperform, hanswers, ht, -, -⟩ :=
      h.exists_perform_resolve hgroups hkeyed horigin pair.1 pair.2
    obtain ⟨u, hrest⟩ := ih ht
    refine ⟨u, ?_⟩
    rw [List.mapM_cons, Action.perform_bind, hperform, Action.andThen_ok, Action.perform_bind,
      hrest, hanswers.unique (hvalue _ _)]
    rfl

end Warmed

/-! ## Reachable states -/

/-- **The states that a resolver comes to**, if it starts with nothing cached and does one
task after another, over a store in memory that nobody else writes to. -/
inductive Reachable (resolver : Resolver) (membership : Membership) : State Rows → Prop where
  /-- It starts with nothing cached, in any world. -/
  | start (registry : Registry) (ambient : Option Scope) (world : World Rows) :
    Reachable resolver membership ⟨.start registry ambient, world⟩
  /-- It does a task. -/
  | task {s : State Rows} (h : Reachable resolver membership s) (task : Task) :
    Reachable resolver membership ((task.action resolver).perform Store.memory membership s).2

section NoGroups

variable {membership : Membership} {s : State Rows}
  (hgroups : resolver.consultsGroups = false)
include hgroups

/-- **Every task leaves the cache faithful**, if there are no groups. -/
theorem Faithful.task (h : resolver.Faithful membership s) (task : Task) :
    resolver.Faithful membership
      ((task.action resolver).perform Store.memory membership s).2 := by
  have hmirrors : resolver.Mirrors membership s s s := ⟨.refl s, .refl s, h, h⟩
  have hapart : ∀ context, Transparent.Admits resolver membership s context :=
    fun context => isApart_of_no_groups hgroups _ _ _
  have hresolve : ∀ feature context,
      resolver.Transparent membership s (resolver.resolve feature context) :=
    fun feature context => .resolve (hapart context) feature
  cases task with
  | operation op => exact (op.agrees hmirrors fun context _ => hapart context).mirrors.left
  | loadMissing features contexts =>
    show resolver.Faithful membership ((resolver.loadWith true features contexts).perform _ _ s).2
    rw [Action.perform_loadWith]
    exact (Transparent.settleAll (fun pair hpair =>
      ⟨hapart _, (State.exists_of_mem_toLoad hpair).2⟩) s s hmirrors).2.left
  | isActive feature context =>
    exact (Respects.isActive (hresolve feature context) s s hmirrors).2.left
  | isInactive feature context =>
    exact (Respects.bind (hresolve feature context) (fun _ => .pure _) s s hmirrors).2.left
  | resolveDefault feature =>
    show resolver.Faithful membership ((resolver.resolveDefault feature).perform _ _ s).2
    unfold resolveDefault
    split
    · exact (hresolve feature _ s s hmirrors).2.left
    · exact h
  | defined => exact h
  | expiringSoon days => exact h

theorem Reachable.faithful (h : resolver.Reachable membership s) :
    resolver.Faithful membership s := by
  induction h with
  | start registry ambient world => exact .of_empty rfl
  | task _ task ih => exact ih.task hgroups task

end NoGroups

/-! ## Loading -/

/-- **Loading is only a warm-up.** Values are loaded, or those that are not cached, by a
resolver that consults no groups, in a state that it may have come to by itself over a store
in memory. The closures are functions of the context key.

* The rows are read at once, and only once: those of the features with the keys of the
  contexts, feature by feature, that are not skipped. If there are none, nothing is read.
* Whatever features are resolved afterwards, for any contexts, each comes out as it would
  have done without the loading.
* A feature that is not defined, or has not expired and requires active features only, is
  cached for each of the contexts. -/
theorem load_warms_up (resolver : Resolver) (source : Source) {s : State Rows}
    (hgroups : resolver.consultsGroups = false)
    (hreachable : resolver.Reachable source.membership s)
    (hkeyed : s.world.closures.AreKeyed (resolver.keyUnder s.work.ambient))
    (skipCached : Bool) (features : List String) (contexts : List Context) :
    let loading := if skipCached then resolver.loadMissing features contexts
      else resolver.load features contexts
    let wanted := resolver.wanted skipCached features contexts s.work
    let resolveAll (asked : List (String × Context)) : Action (List FeatureValue) :=
      asked.mapM fun pair => resolver.resolve pair.1 pair.2
    ∃ t transcript, loading.perform Store.memory source.membership s = (.ok (), t)
      ∧ loading.course (World.answer Store.memory source.membership) s.work s.world
          = ⟨.ok (), t.work, transcript⟩
      ∧ batches transcript = (if wanted.isEmpty then [] else [wanted])
      ∧ (∀ asked, ∃ values,
          ((resolveAll asked).perform Store.memory source.membership t).1 = .ok values
            ∧ ((resolveAll asked).perform Store.memory source.membership s).1 = .ok values)
      ∧ ∀ feature ∈ features, ∀ context ∈ contexts,
          (∀ definition, s.work.registry.get? feature = some definition →
            definition.isExpiredAt s.world.now = false
              ∧ ∀ r ∈ definition.required, ∃ value,
                ((resolver.resolve r context).perform Store.memory source.membership s).1
                    = .ok value
                  ∧ value.isActive) →
          t.work.cache.contains feature (resolver.keyUnder s.work.ambient context) := by
  intro loading wanted resolveAll
  have hloading : loading = resolver.loadWith skipCached features contexts := by
    cases skipCached <;> rfl
  have hfaithful := hreachable.faithful hgroups
  obtain ⟨t, hperform, ht, hcached⟩ := Warmed.exists_perform_loadWith hgroups hkeyed hfaithful
    skipCached features contexts
  have hstart : resolver.Warmed source.membership s s := .refl hfaithful hkeyed.arePure
  choose value _ hresolve hvalue _ using fun f c =>
    hstart.exists_perform_resolve hgroups hkeyed hfaithful f c
  obtain ⟨transcript, hcourse⟩ :=
    Action.exists_course_eq_perform Store.memory source.membership loading s
  have hbatches := (transcribes_loadWith resolver skipCached features contexts s.work).course
    (World.answer Store.memory source.membership) s.world
  rw [← hloading] at hperform hbatches
  rw [hperform] at hcourse
  rw [hcourse] at hbatches
  refine ⟨t, transcript, hperform, hcourse, hbatches, fun asked => ?_, ?_⟩
  · obtain ⟨_, hafter⟩ := ht.exists_perform_mapM_resolve hgroups hkeyed hfaithful hvalue asked
    obtain ⟨_, hbefore⟩ :=
      hstart.exists_perform_mapM_resolve hgroups hkeyed hfaithful hvalue asked
    exact ⟨_, congrArg Prod.fst hafter, congrArg Prod.fst hbefore⟩
  · intro feature hfeature context hcontext hready
    refine hcached feature hfeature context hcontext fun definition hdef => ?_
    obtain ⟨hunexpired, hrequired⟩ := hready definition hdef
    refine ⟨hunexpired, fun r hr => ?_⟩
    obtain ⟨v, hv, hactive⟩ := hrequired r hr
    rw [hresolve] at hv
    exact (hvalue r context).isActive_iff.mp (Except.ok.inj hv ▸ hactive)

/-- A feature was asked for, and is then loaded for two contexts, one of which is given twice,
together with one that requires it and one that is not defined. -/
theorem load_warms_up_after_query :
    let requiring (name : String) (required : List String) : Definition :=
      { Definition.ofRule name (.closure ⟨0⟩) with required }
    let registry : Registry := ⟨((∅ : Std.ExtTreeMap String Definition).insert "base"
      (requiring "base" [])).insert "left" (requiring "left" ["base"])⟩
    let resolver : Resolver := ⟨.none, .standard, false, true, none⟩
    let closures : Closures := ⟨[(⟨fun context _ => .string (resolver.keyUnder none context)⟩, 0)]⟩
    let membership := Groups.empty.source.membership
    let ada := Context.scalar "ada"
    let eve := Context.scalar "eve"
    let s := ((Task.isActive "base" ada).action resolver |>.perform Store.memory membership
      ⟨.start registry none, .start .epoch ∅ closures⟩).2
    let loading := resolver.loadMissing ["base", "left", "gone"] [ada, eve, ada]
    ∃ t transcript, loading.perform Store.memory membership s = (.ok (), t)
      ∧ loading.course (World.answer Store.memory membership) s.work s.world
          = ⟨.ok (), t.work, transcript⟩
      ∧ batches transcript = [[("base", "eve"), ("left", "ada"), ("left", "eve"), ("left", "ada"),
          ("gone", "ada"), ("gone", "eve"), ("gone", "ada")]]
      ∧ t.work.cache.contains "left" "eve" ∧ t.work.cache.contains "gone" "ada" := by
  intro requiring registry resolver closures membership ada eve s loading
  have hreachable : resolver.Reachable membership s := .task (.start registry none _) _
  have hambient : s.work.ambient = none := rfl
  have hkeyed : s.world.closures.AreKeyed (resolver.keyUnder none) :=
    Closures.areKeyed_singleton (fun _ _ _ _ => congrArg _) 1
  have hwanted : resolver.wanted true ["base", "left", "gone"] [ada, eve, ada] s.work
      = [("base", "eve"), ("left", "ada"), ("left", "eve"), ("left", "ada"),
        ("gone", "ada"), ("gone", "eve"), ("gone", "ada")] := by
    decide +kernel
  have hleft : s.work.registry.get? "left" = some (requiring "left" ["base"]) := by
    decide +kernel
  have hgone : s.work.registry.get? "gone" = none := by decide +kernel
  have hbase : ((resolver.resolve "base" eve).perform Store.memory membership s).1
      = .ok (.active (.string "eve")) := by
    decide +kernel
  -- all that matters of the state has been said
  clear_value s
  obtain ⟨t, transcript, hperform, hcourse, hbatches, -, hcached⟩ :=
    load_warms_up resolver Groups.empty.source rfl hreachable (hambient ▸ hkeyed) true
      ["base", "left", "gone"] [ada, eve, ada]
  rw [hambient] at hcached
  refine ⟨t, transcript, hperform, hcourse, ?_, ?_, ?_⟩
  · rw [hbatches, hwanted]
    rfl
  · refine hcached "left" (by decide) eve (by decide) fun definition hdef => ?_
    obtain rfl := Option.some.inj (hleft.symm.trans hdef)
    refine ⟨rfl, fun r hr => ?_⟩
    obtain rfl := List.mem_singleton.mp hr
    exact ⟨_, hbase, rfl⟩
  · refine hcached "gone" (by decide) ada (by decide) fun definition hdef => ?_
    cases hgone.symm.trans hdef

end FeatureGate.Resolver
