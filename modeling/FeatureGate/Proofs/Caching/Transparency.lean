import FeatureGate.Proofs.Caching.Reads
import FeatureGate.Proofs.Context.Separation
import FeatureGate.Proofs.Operation
import FeatureGate.Proofs.Writes

/-!
# The cache is transparent

Nobody can tell from what a resolver answers, or from the rows it leaves behind,
whether it kept anything in its cache: the trace of a sequence of operations is
the one that the same operations leave if the cache is flushed before each of
them.

Reads have been dealt with already. A write evicts what is cached of the feature
it writes, so that the cache stays faithful, and a scope that is new takes the
whole cache with it, because what is inherited depends on it.
-/

namespace FeatureGate.Resolver

open Store (Rows)

variable {resolver : Resolver} {membership : Membership} {s t : State Rows}

namespace Faithful

/-- **A write leaves the cache faithful** if what stays in it is of features
whose rows are the same. -/
theorem rewritten (h : resolver.Faithful membership s) {cache : Cache} {rows : Rows}
    (hrest : ∀ feature key value, cache.get? feature key = some value →
      s.work.cache.get? feature key = some value
        ∧ ∀ key', rows.get? feature key' = s.world.store.get? feature key') :
    resolver.Faithful membership (s.rewritten cache rows) :=
  h.of_agree rfl fun feature key value hvalue =>
    ⟨(hrest feature key value hvalue).1, rfl, (hrest feature key value hvalue).2⟩

/-- A write of one feature does, if nothing is kept of that feature. -/
theorem forgetFeature (h : resolver.Faithful membership s) {written : String} {rows : Rows}
    (hrows : ∀ feature, written ≠ feature → ∀ key,
      rows.get? feature key = s.world.store.get? feature key) :
    resolver.Faithful membership
      (s.rewritten (s.work.cache.forgetFeature written) rows) := by
  refine h.rewritten fun feature key value hvalue => ?_
  rw [Cache.get?_forgetFeature] at hvalue
  split at hvalue
  · cases hvalue
  · rename_i hne
    exact ⟨hvalue, hrows feature hne⟩

theorem set (h : resolver.Faithful membership s) (feature key : String) (value : Payload) :
    resolver.Faithful membership (s.rewritten (s.work.cache.written feature key value)
      (s.world.store.insert ⟨feature, key⟩ value)) := by
  have hforgotten : resolver.Faithful membership (s.rewritten
      (s.work.cache.forgetFeature feature) (s.world.store.insert ⟨feature, key⟩ value)) := by
    refine h.forgetFeature fun other hne key' => ?_
    rw [Rows.get?_insert, if_neg fun hat => hne hat.1]
  unfold Cache.written
  split
  · rename_i hactive
    refine hforgotten.put ⟨.ofPayload value, ?_, if_pos hactive⟩
    simp [persisted?, State.rewritten, Rows.get?_insert]
  · exact hforgotten

theorem purge (h : resolver.Faithful membership s) (features : Option (List String)) :
    resolver.Faithful membership
      (s.rewritten (s.work.cache.purged features) (s.world.store.purge features)) := by
  refine h.rewritten fun feature key value hvalue => ?_
  cases features with
  | none => simp [Cache.purged] at hvalue
  | some names =>
    rw [Cache.purged, Cache.get?_foldl_forgetFeature] at hvalue
    split at hvalue
    · cases hvalue
    · rename_i hmem
      refine ⟨hvalue, fun key' => ?_⟩
      rw [Rows.get?_purge_some, if_neg hmem]

theorem defined (h : resolver.Faithful membership s) {definition : Definition}
    {registry : Registry} (hdefine : s.work.registry.define definition = .ok registry) :
    resolver.Faithful membership (s.defined definition registry) := by
  refine h.of_agree rfl fun feature key value hvalue => ?_
  change (s.work.cache.forgetFeature definition.name).get? feature key = some value at hvalue
  rw [Cache.get?_forgetFeature] at hvalue
  split at hvalue
  · cases hvalue
  · rename_i hne
    refine ⟨hvalue, ?_, fun _ => rfl⟩
    show registry.get? feature = s.work.registry.get? feature
    rw [Registry.get?_define hdefine, if_neg hne]

end Faithful

/-! ## Single operations -/

/-- Mirrors need no origin. -/
theorem Mirrors.now {origin : State Rows} (h : resolver.Mirrors membership origin s t) :
    resolver.Mirrors membership s s t :=
  ⟨h.twin, .refl s, h.left, h.right⟩

/-- The same rows written in mirrors leave mirrors behind. -/
theorem Mirrors.rewritten {origin : State Rows} (h : resolver.Mirrors membership origin s t)
    {left right : Cache} {rows : Rows}
    (hleft : resolver.Faithful membership (s.rewritten left rows))
    (hright : resolver.Faithful membership (t.rewritten right rows)) :
    resolver.Mirrors membership (s.rewritten left rows) (s.rewritten left rows)
      (t.rewritten right rows) :=
  ⟨⟨h.twin.registry, h.twin.ambient, h.twin.guard, rfl, h.twin.now, h.twin.closures⟩,
    .refl _, hleft, hright⟩

/-- So do the same rows, if nothing is kept of the one feature they are written
for. -/
theorem Mirrors.forgetFeature {origin : State Rows}
    (h : resolver.Mirrors membership origin s t) {written : String} {rows : Rows}
    (hrows : ∀ feature, written ≠ feature → ∀ key,
      rows.get? feature key = s.world.store.get? feature key) :
    resolver.Mirrors membership (s.rewritten (s.work.cache.forgetFeature written) rows)
      (s.rewritten (s.work.cache.forgetFeature written) rows)
      (t.rewritten (t.work.cache.forgetFeature written) rows) := by
  refine h.rewritten (h.left.forgetFeature hrows) (h.right.forgetFeature ?_)
  rw [h.twin.store]
  exact hrows

theorem Mirrors.told {origin : State Rows} (h : resolver.Mirrors membership origin s t)
    (event : Event) :
    resolver.Mirrors membership (s.told resolver event) (s.told resolver event)
      (t.told resolver event) :=
  (h.of_quiet (.told s resolver event) (.told t resolver event)).now

/-- **An action does not tell two states apart**: the results are the same, and
the states left behind mirror each other. Their ambient scope is a given one. -/
structure Agrees {α : Type} (resolver : Resolver) (membership : Membership)
    (action : Action α) (ambient : Option Scope) (s t : State Rows) : Prop where
  /-- The results are the same. -/
  result : (action.perform Store.memory membership s).1
    = (action.perform Store.memory membership t).1
  /-- The states left behind mirror each other. -/
  mirrors : resolver.Mirrors membership (action.perform Store.memory membership s).2
    (action.perform Store.memory membership s).2 (action.perform Store.memory membership t).2
  /-- The ambient scope is the given one. -/
  ambient : (action.perform Store.memory membership s).2.work.ambient = ambient

namespace Agrees

theorem of_perform {α : Type} {action : Action α} {result : Except FeatureError α}
    {s' t' : State Rows} {ambient : Option Scope}
    (hs : action.perform Store.memory membership s = (result, s'))
    (ht : action.perform Store.memory membership t = (result, t'))
    (hmirrors : resolver.Mirrors membership s' s' t') (hambient : s'.work.ambient = ambient) :
    Agrees resolver membership action ambient s t := by
  refine ⟨?_, ?_, ?_⟩
  · rw [hs, ht]
  · rw [hs, ht]
    exact hmirrors
  · rw [hs]
    exact hambient

theorem of_transparent {α : Type} {action : Action α} (h : resolver.Mirrors membership s s t)
    (haction : resolver.Transparent membership s action) :
    Agrees resolver membership action s.work.ambient s t :=
  ⟨(haction s t h).1, (haction s t h).2.now, (haction s t h).2.later.ambient⟩

theorem set (h : resolver.Mirrors membership s s t) (feature : String) (context : Context)
    (value : Payload) :
    Agrees resolver membership (resolver.set feature context value) s.work.ambient s t := by
  have hright := h.right.set feature (resolver.keyUnder s.work.ambient context) value
  rw [h.twin.store] at hright
  refine .of_perform (Action.perform_set ..) ?_
    ((h.rewritten (h.left.set feature _ value) hright).told _) (by simp [State.rewritten])
  rw [Action.perform_set, h.twin.ambient, h.twin.store]

theorem setForAllContexts (h : resolver.Mirrors membership s s t) (feature : String)
    (value : Payload) :
    Agrees resolver membership (resolver.setForAllContexts feature value)
      s.work.ambient s t := by
  have hrows : ∀ other, feature ≠ other → ∀ key,
      (s.world.store.setForAll feature value).get? other key
        = s.world.store.get? other key := by
    intro other hne key
    rw [Rows.get?_setForAll]
    simp [Ne.symm hne]
  refine .of_perform (Action.perform_setForAllContexts ..) ?_
    ((h.forgetFeature hrows).told _) (by simp [State.rewritten])
  rw [Action.perform_setForAllContexts, h.twin.store]

theorem delete (h : resolver.Mirrors membership s s t) (feature : String)
    (context : Context) :
    Agrees resolver membership (resolver.delete feature context) s.work.ambient s t := by
  have hrows : ∀ other, feature ≠ other → ∀ key,
      Rows.get? (s.world.store.erase
          ⟨feature, resolver.keyUnder s.work.ambient context⟩) other key
        = s.world.store.get? other key := by
    intro other hne key
    rw [Rows.get?_erase, if_neg fun hat => hne hat.1]
  refine .of_perform (Action.perform_delete ..) ?_
    ((h.forgetFeature hrows).told _) (by simp [State.rewritten])
  rw [Action.perform_delete, h.twin.ambient, h.twin.store]

theorem purge (h : resolver.Mirrors membership s s t) (features : Option (List String)) :
    Agrees resolver membership (resolver.purge features) s.work.ambient s t := by
  have hright := h.right.purge features
  rw [h.twin.store] at hright
  refine .of_perform (Action.perform_purge ..) ?_
    ((h.rewritten (h.left.purge features) hright).told _) (by simp [State.rewritten])
  rw [Action.perform_purge, h.twin.store]

theorem purgeExpired (h : resolver.Mirrors membership s s t) :
    Agrees resolver membership resolver.purgeExpired s.work.ambient s t := by
  have hpurge := purge h (some (s.work.registry.expired s.world.now))
  have hright := @Action.perform_purgeExpired membership resolver t
  rw [h.twin.registry, h.twin.now] at hright
  refine .of_perform (Action.perform_purgeExpired ..) hright ?_ ?_
  · split
    · exact h
    · exact hpurge.mirrors
  · split
    · rfl
    · exact hpurge.ambient

theorem define (h : resolver.Mirrors membership s s t) (definition : Definition) :
    Agrees resolver membership (resolver.define definition) s.work.ambient s t := by
  obtain ⟨s', hs, hleft⟩ := @Action.exists_perform_define membership resolver s definition
  obtain ⟨t', ht, hright⟩ := @Action.exists_perform_define membership resolver t definition
  have h' := h.of_quiet hs ht
  rw [h.twin.registry] at hright
  cases hdefine : s.work.registry.define definition with
  | error e =>
    rw [hdefine] at hleft hright
    exact .of_perform hleft hright h'.now (by rw [hs.work])
  | ok registry =>
    rw [hdefine] at hleft hright
    rw [← hs.work] at hdefine
    have htwin : (s'.defined definition registry).Twin (t'.defined definition registry) :=
      ⟨rfl, h'.twin.ambient, h'.twin.guard, h'.twin.store, h'.twin.now, h'.twin.closures⟩
    have hafter := h'.right.defined (h'.twin.registry ▸ hdefine)
    refine .of_perform hleft hright ⟨htwin, .refl _, h'.left.defined hdefine, hafter⟩ ?_
    show s'.work.ambient = _
    rw [hs.work]

theorem defineVariant (h : resolver.Mirrors membership s s t) (feature : String)
    (weights : List (String × UInt32)) :
    Agrees resolver membership (resolver.defineVariant feature weights)
      s.work.ambient s t := by
  have hleft := @Action.perform_defineVariant membership resolver s feature weights
  have hright := @Action.perform_defineVariant membership resolver t feature weights
  cases htable : VariantTable.ofList feature weights with
  | error e =>
    rw [htable] at hleft hright
    exact .of_perform hleft hright h rfl
  | ok table =>
    rw [htable] at hleft hright
    have hdefine := define h (.ofRule feature (.variants table))
    refine ⟨?_, ?_, ?_⟩
    · rw [hleft, hright]
      exact hdefine.result
    · rw [hleft, hright]
      exact hdefine.mirrors
    · rw [hleft]
      exact hdefine.ambient

theorem setAmbientScope (h : resolver.Mirrors membership s s t) (scope : Option Scope) :
    Agrees resolver membership (setAmbientScope scope)
      (if isAmbient s.work.ambient scope then s.work.ambient else scope) s t := by
  have hright := @Action.perform_setAmbientScope membership t scope
  rw [h.twin.ambient] at hright
  refine .of_perform (Action.perform_setAmbientScope ..) hright ?_ ?_
  · split
    · exact h
    · exact ⟨⟨h.twin.registry, rfl, h.twin.guard, h.twin.store, h.twin.now, h.twin.closures⟩,
        .refl _, .of_empty rfl, .of_empty rfl⟩
  · split
    · rfl
    · rfl

theorem flushCache (h : resolver.Mirrors membership s s t) :
    Agrees resolver membership flushCache s.work.ambient s t := by
  refine .of_perform (Action.perform_flushCache ..) ?_
    (h.rewritten (.of_empty rfl) (.of_empty rfl)) rfl
  rw [Action.perform_flushCache, h.twin.store]
  rfl

theorem stored (h : resolver.Mirrors membership s s t) :
    Agrees resolver membership stored s.work.ambient s t := by
  refine .of_perform (Action.perform_stored ..) ?_ h rfl
  rw [Action.perform_stored, h.twin.store]

end Agrees

/-- **The ambient scope after an operation.** -/
def Operation.ambientAfter (ambient : Option Scope) : Operation → Option Scope
  | .setAmbientScope scope => if isAmbient ambient scope then ambient else scope
  | _ => ambient

/-- **No operation tells mirrors apart**, if it does not read for the keys of
groups. -/
theorem Operation.agrees (op : Operation) (h : resolver.Mirrors membership s s t)
    (hapart : ∀ context ∈ op.contexts, Transparent.Admits resolver membership s context) :
    Agrees resolver membership (op.action resolver) (op.ambientAfter s.work.ambient) s t := by
  have hresolve : ∀ context, context ∈ op.contexts → ∀ feature,
      resolver.Transparent membership s (resolver.resolve feature context) :=
    fun context hcontext feature => .resolve (hapart context hcontext) feature
  have hcorrelated := Mirrors.correlated resolver membership s
  cases op with
  | define definition => exact .define h definition
  | defineVariant feature weights => exact .defineVariant h feature weights
  | set feature context value => exact .set h feature context value
  | activate feature context => exact .set h feature context _
  | deactivate feature context => exact .set h feature context _
  | activateForGroup feature group => exact .set h feature _ _
  | setForAllContexts feature value => exact .setForAllContexts h feature value
  | delete feature context => exact .delete h feature context
  | purge features => exact .purge h features
  | purgeExpired => exact .purgeExpired h
  | resolve feature context =>
    exact .of_transparent h (hresolve context (List.mem_singleton_self _) feature)
  | resolveVariant feature context =>
    exact .of_transparent h
      (Respects.resolveVariant hcorrelated (hresolve context (List.mem_singleton_self _) feature))
  | values features context =>
    exact .of_transparent h
      (Respects.values (hresolve context (List.mem_singleton_self _)) features)
  | all context =>
    exact .of_transparent h
      (Respects.all (hresolve context (List.mem_singleton_self _)) hcorrelated)
  | allAreActive features context =>
    exact .of_transparent h
      (Respects.allAreActive (hresolve context (List.mem_singleton_self _)) features)
  | someAreActive features context =>
    exact .of_transparent h
      (Respects.someAreActive (hresolve context (List.mem_singleton_self _)) features)
  | load features contexts =>
    obtain ⟨hresult, hmirrors⟩ := h.load hapart features
    exact ⟨hresult, hmirrors.now, hmirrors.later.ambient⟩
  | stored => exact .stored h
  | setAmbientScope scope => exact .setAmbientScope h scope
  | flushCache => exact .flushCache h

/-! ## Sequences of operations -/

/-- **The state after a flush** of the cache. -/
def State.flushed (membership : Membership) (s : State Rows) : State Rows :=
  (Resolver.flushCache.perform Store.memory membership s).2

/-- **No operation of a sequence reads for the key of a group**, under the ambient
scope of the moment. -/
def ReadsApart (resolver : Resolver) (membership : Membership) :
    List Operation → Option Scope → Prop
  | [], _ => True
  | op :: rest, ambient =>
    (∀ context ∈ op.contexts, ∀ group, resolver.IsGroup membership group →
      resolver.keyUnder ambient context ≠ resolver.keyUnder ambient (.group group))
    ∧ ReadsApart resolver membership rest (op.ambientAfter ambient)

/-- Mirrors leave the same trace, one with flushes and the other without. -/
theorem trace_eq_trace_flushed (h : resolver.Mirrors membership s s t) {ops : List Operation}
    (hapart : resolver.ReadsApart membership ops s.work.ambient) :
    Operation.trace resolver membership id ops s
      = Operation.trace resolver membership (State.flushed membership) ops t := by
  induction ops generalizing s t with
  | nil => rfl
  | cons op rest ih =>
    -- an empty cache is faithful, so a flush on one side does not matter
    have hflushed : resolver.Mirrors membership s s (t.flushed membership) := by
      refine h.of_twins (.refl s) ?_ h.left (.of_empty rfl)
      exact ⟨rfl, rfl, rfl, rfl, rfl, rfl⟩
    have hagrees := op.agrees hflushed hapart.1
    have hrest := hapart.2
    rw [← hagrees.ambient] at hrest
    unfold Operation.trace
    refine congrArg₂ _ ?_ (ih hagrees.mirrors hrest)
    exact congrArg₂ (Operation.Outcome.mk op) hagrees.result hagrees.mirrors.twin.store.symm

/-- **The cache is transparent.** A resolver that alone uses a store in memory
answers every sequence of operations as if its cache were flushed before each of
them, and leaves the same rows behind after each – whatever the definitions, the
rows to begin with and the source of membership are, as long as no operation
reads for the key of a group. -/
theorem cache_transparent (resolver : Resolver) (membership : Membership)
    (registry : Registry) (ambient : Option Scope) (world : World Rows)
    (ops : List Operation) (hapart : resolver.ReadsApart membership ops ambient) :
    Operation.trace resolver membership id ops ⟨.start registry ambient, world⟩
      = Operation.trace resolver membership (State.flushed membership) ops
          ⟨.start registry ambient, world⟩ :=
  trace_eq_trace_flushed ⟨.refl _, .refl _, .of_empty rfl, .of_empty rfl⟩ hapart

/-- A member of a group reads a feature before and after the group has it, and
the feature is switched off for everyone in between. -/
theorem cache_transparent_of_member :
    let groups := (Groups.empty.addMember "beta" "ada").grant "beta" "dark"
    let resolver : Resolver := ⟨.none, .standard, true, true, none⟩
    let world : World Rows := .start .epoch ∅ ⟨[(.echo, 0)]⟩
    let ops : List Operation :=
      [.define (.ofRule "dark" (.constant (.bool false))), .resolve "dark" (.scalar "ada"),
        .activateForGroup "dark" "beta", .resolve "dark" (.scalar "ada"),
        .setForAllContexts "dark" (.bool false), .all (.scalar "ada")]
    Operation.trace resolver groups.membership id ops ⟨.start .empty none, world⟩
      = Operation.trace resolver groups.membership (State.flushed groups.membership) ops
          ⟨.start .empty none, world⟩ := by
  intro groups resolver world ops
  refine cache_transparent resolver groups.membership .empty none world ops ?_
  have hgroup : ∀ group, resolver.IsGroup groups.membership group →
      resolver.keyUnder none (.scalar "ada") ≠ resolver.keyUnder none (.group group) := by
    intro group _ hkey
    exact Identity.noConfusion (Aliases.identityKey_injective
      (i := .scalar "ada") (j := .entity Context.groupKind group) trivial trivial hkey)
  simpa [ops, ReadsApart, Operation.contexts, Operation.ambientAfter] using hgroup

end FeatureGate.Resolver
