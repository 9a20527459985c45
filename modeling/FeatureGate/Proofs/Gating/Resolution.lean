import Mathlib.Data.List.Nodup
import FeatureGate.Proofs.Registry
import FeatureGate.Proofs.Resolution.Opened

/-!
# Resolution computes the least fixed point of the gates

Resolving a feature goes down through what it requires, keeps the frames in
flight on a stack, and takes a frame that is met again for a sign that the
feature is inactive. On the way it may write rows and fill the cache, and it
stops asking at the first requirement that is not active.

None of this shows in the answer: it is the one that `Gates` defines from the
state before. Three facts carry the proof.

* What a resolution writes is what it would have computed again, so the values
  the gates depend on do not change on the way (`Unmoved`).
* The frames in flight belong to features that require, step by step, the one
  being resolved. So a frame that is met again is on a circle, and a circle is
  closed.
* The frames are of different features with requirements, so their number never
  exceeds that of such features, and the nesting allowed for is never used up.
-/

namespace FeatureGate

open Store (Rows)
open Relation (ReflTransGen TransGen)

/-! ## Frames in flight -/

/-- Frames for one context key are told apart by their features. -/
theorem Guard.frame_injective (key : String) : Function.Injective (Guard.frame · key) := by
  intro f g h
  simpa [Guard.frame, ← String.toList_inj] using h

namespace Registry

/-- The features that require others, in increasing order. -/
def gated (registry : Registry) : List String :=
  (registry.definitions.toList.filter (!·.2.required.isEmpty)).map (·.1)

theorem length_gated (registry : Registry) : registry.gated.length = registry.gatedCount := by
  unfold gated gatedCount
  rw [List.length_map, Tables.values_eq_map_toList, List.filter_map, List.length_map]
  rfl

theorem mem_gated {registry : Registry} {feature : String} {definition : Definition}
    (h : registry.get? feature = some definition) (hreq : definition.required ≠ []) :
    feature ∈ registry.gated := by
  refine List.mem_map.mpr ⟨(feature, definition), List.mem_filter.mpr ⟨?_, by simpa⟩, rfl⟩
  exact Std.ExtTreeMap.mem_toList_iff_getElem?_eq_some.mpr h

end Registry

theorem Gates.length_le_gatedCount (gates : Gates) {path : List String} (hnodup : path.Nodup)
    {f : String} (hpath : ∀ p ∈ path, TransGen gates.Requires p f) :
    path.length ≤ gates.registry.gatedCount := by
  rw [← Registry.length_gated]
  refine hnodup.length_le_of_subset fun p hp => ?_
  obtain ⟨r, ⟨definition, hdef, hr⟩, _⟩ := TransGen.head'_iff.mp (hpath p hp)
  exact Registry.mem_gated hdef (List.ne_nil_of_mem hr)

namespace Resolver

variable (resolver : Resolver) (source : Source) {context : Context}

/-! ## An open feature -/

/-- Asking for an own value moves nothing. -/
theorem unmoved_initialized {s : State Rows} (hpure : s.world.closures.ArePure)
    (feature : String) {key : String} (hkey : resolver.keyUnder s.work.ambient context = key) :
    resolver.Unmoved source context s (s.initialized resolver context feature key) := by
  unfold State.initialized
  split
  · exact .refl hpure
  · rename_i hrow hdef
    exact .firstWritten hpure hkey hdef hrow
  · exact .of_quiet (.told s resolver _) hpure

/-- It leaves first payloads as they were. -/
theorem firstPayload_initialized {s : State Rows} (hpure : s.world.closures.ArePure)
    (feature key : String) (definition : Definition) (other : String) :
    ((s.initialized resolver context feature key).world.closures.firstPayload definition context
        other).1
      = (s.world.closures.firstPayload definition context other).1 := by
  unfold State.initialized
  split
  · rfl
  · exact hpure.firstPayload_firstPayload ..
  · simp

/-- **Resolving an open feature** moves nothing, and leaves its row and a value for it. -/
theorem leaves_opened {s : State Rows} (hpure : s.world.closures.ArePure) (feature : String) :
    resolver.Leaves source context feature s (s.opened resolver source context feature) := by
  have hrow := resolver.get?_opened source context s feature
  unfold State.opened at hrow ⊢
  dsimp only at hrow ⊢
  cases hcache : s.work.cache.get? feature (resolver.keyUnder s.work.ambient context) with
  | some value =>
    rw [hcache] at hrow
    refine ⟨.refl hpure, fun _ _ => rfl, fun f k => ?_, hrow⟩
    refine ⟨.inl, fun h => h.elim id fun hat => ?_⟩
    rw [hat.1, hat.2, hcache]
    rfl
  | none =>
    rw [hcache] at hrow
    have hunmoved : resolver.Unmoved source context s (s.initialized resolver context feature
        (resolver.keyUnder s.work.ambient context)) :=
      resolver.unmoved_initialized source hpure feature rfl
    have hbase : resolver.baseValue source context
        (s.initialized resolver context feature (resolver.keyUnder s.work.ambient context)) feature
          = resolver.baseValue source context s feature :=
      congrFun (congrArg Gates.base hunmoved.gates) feature
    refine ⟨hunmoved.trans (.kept hunmoved.pure (by rw [work_initialized]) hbase _),
      fun definition k => ?_, fun f k => ?_, hrow⟩
    · rw [State.closures_kept, resolver.firstPayload_initialized hpure]
    · rw [State.work_kept, Cache.get?_put, work_initialized]
      split
      · rename_i hat
        exact iff_of_true rfl (.inr ⟨hat.1.symm, hat.2.symm⟩)
      · rename_i hne
        exact (or_iff_left fun hat => hne ⟨hat.1.symm, hat.2.symm⟩).symm

/-- **Resolving an open feature gives its value**, and moves nothing. -/
theorem exists_perform_resolveOpen {s : State Rows} (hpure : s.world.closures.ArePure)
    (feature : String) {key : String} (hkey : resolver.keyUnder s.work.ambient context = key) :
    ∃ t, (resolver.resolveOpen feature context key (s.work.registry.get? feature)).perform
          Store.memory source.membership s
        = (.ok (resolver.baseValue source context s feature), t)
      ∧ resolver.Leaves source context feature s t := by
  subst hkey
  exact ⟨_, resolver.perform_resolveOpen source context s feature,
    resolver.leaves_opened source hpure feature⟩

/-! ## Requirements -/

/-- **A call answers for a feature** as the gates of a state say, wherever
nothing has moved. -/
def AnswersFrom (context : Context) (again : String → Context → Action FeatureValue)
    (s : State Rows) (feature : String) : Prop :=
  ∀ t, resolver.Unmoved source context s t →
    ∃ value u, (again feature context).perform Store.memory source.membership t = (.ok value, u)
      ∧ (resolver.gates source context s).Answers feature value
      ∧ resolver.Unmoved source context s u

/-- **Asking for requirements one after another** finds out whether all are
open, if each one that is asked for is answered. -/
theorem exists_perform_allOpen {again : String → Context → Action FeatureValue}
    {s : State Rows} (required : List String)
    (hagain : ∀ r ∈ required, resolver.AnswersFrom source context again s r)
    {t : State Rows} (hst : resolver.Unmoved source context s t) :
    ∃ met u, (allOpen again context required).perform Store.memory source.membership t
        = (.ok met, u)
      ∧ (met = true ↔ ∀ r ∈ required, (resolver.gates source context s).IsOpen r)
      ∧ resolver.Unmoved source context s u := by
  induction required generalizing t with
  | nil => exact ⟨true, t, rfl, by simp, hst⟩
  | cons r rest ih =>
    obtain ⟨value, u, hperform, hanswers, hsu⟩ := hagain r List.mem_cons_self t hst
    rw [allOpen, Action.perform_bind, hperform, Action.andThen_ok, Action.perform_ite]
    by_cases hactive : value.isActive
    · rw [if_pos hactive]
      obtain ⟨met, w, hrest, hmet, hsw⟩ :=
        ih (fun r' hr' => hagain r' (List.mem_cons_of_mem r hr')) hsu
      refine ⟨met, w, hrest, ?_, hsw⟩
      rw [hmet, List.forall_mem_cons]
      exact (and_iff_right (hanswers.isActive_iff.mp hactive)).symm
    · rw [if_neg hactive]
      refine ⟨false, u, rfl, ?_, hsu⟩
      rw [List.forall_mem_cons, ← hanswers.isActive_iff]
      simp [hactive]

section Frames

variable {again : String → Context → Action FeatureValue} {definition : Definition}
  {feature key : String} {membership : Membership} {s : State Rows}

/-- A frame that is met again is reported, and closes the gate. -/
theorem perform_gateOpen_of_met (hunexpired : definition.isExpiredAt s.world.now = false)
    (hrequired : definition.required.isEmpty = false)
    (hmet : s.work.guard.enter? (Guard.frame feature key) = none) :
    (resolver.gateOpen again definition feature context key).perform Store.memory membership s
      = (.ok false, (s.warned (.dependencyCycle feature key)).told resolver
          (.cycleDetected feature s.work.guard.frames)) := by
  rw [gateOpen, Action.perform_bind, Action.perform_ask_clock, Action.andThen_ok,
    Action.perform_ite, hunexpired, if_neg Bool.false_ne_true, hrequired]
  show (enter _ >>= _ : Action Bool).perform _ _ _ = _
  rw [Action.perform_bind, Action.perform_enter, hmet, Action.andThen_ok]
  show (ask _ >>= _ : Action Bool).perform _ _ _ = _
  rw [Action.perform_bind, Action.perform_ask_warn, Action.andThen_ok, Action.perform_bind,
    Action.perform_get, Action.andThen_ok, Action.perform_bind, Action.perform_emit,
    Action.andThen_ok]
  rfl

/-- Otherwise the requirements are asked for with the frame in flight, and it is
taken off again. -/
theorem perform_gateOpen_of_entered (hunexpired : definition.isExpiredAt s.world.now = false)
    (hrequired : definition.required.isEmpty = false) {inside : Guard}
    (henter : s.work.guard.enter? (Guard.frame feature key) = some inside)
    {outcome : Except FeatureError Bool} {t : State Rows}
    (hall : (allOpen again context definition.required).perform Store.memory membership
      (s.within inside) = (outcome, t)) :
    (resolver.gateOpen again definition feature context key).perform Store.memory membership s
      = (outcome, t.within t.work.guard.leave) := by
  rw [gateOpen, Action.perform_bind, Action.perform_ask_clock, Action.andThen_ok,
    Action.perform_ite, hunexpired, if_neg Bool.false_ne_true, hrequired]
  show (enter _ >>= _ : Action Bool).perform _ _ _ = _
  rw [Action.perform_bind, Action.perform_enter, henter, Action.andThen_ok]
  show (attempt _ >>= _ : Action Bool).perform _ _ _ = _
  rw [Action.perform_bind, Action.perform_attempt, hall, Action.andThen_ok]
  cases outcome <;> rfl

end Frames

/-- **Whether the gate holds** is found out if the calls below answer for what
the feature requires, whenever its own frame is in flight on top of those above,
and if a frame that is met again means that the gate does not hold. -/
theorem exists_perform_gateOpen {again : String → Context → Action FeatureValue}
    {s : State Rows} (hpure : s.world.closures.ArePure) {feature : String}
    {definition : Definition} (hdef : s.work.registry.get? feature = some definition)
    (key : String)
    (hagain : ∀ inside, s.work.guard.enter? (Guard.frame feature key) = some inside →
      ∀ r, (resolver.gates source context s).Requires feature r →
        resolver.AnswersFrom source context again (s.within inside) r)
    (hcycle : Guard.frame feature key ∈ s.work.guard.frames →
      ¬ (resolver.gates source context s).Holds feature) :
    ∃ met t, (resolver.gateOpen again definition feature context key).perform
          Store.memory source.membership s = (.ok met, t)
      ∧ (met = true ↔ (resolver.gates source context s).Holds feature)
      ∧ resolver.Unmoved source context s t := by
  have hholds : (resolver.gates source context s).Holds feature
      ↔ definition.isExpiredAt s.world.now = false
        ∧ ∀ r ∈ definition.required, (resolver.gates source context s).IsOpen r :=
    Gates.holds_iff hdef
  cases hexpired : definition.isExpiredAt s.world.now with
  | true =>
    refine ⟨false, s, ?_, by simp [hholds, hexpired], .refl hpure⟩
    rw [gateOpen, Action.perform_bind, Action.perform_ask_clock, Action.andThen_ok,
      Action.perform_ite, hexpired]
    rfl
  | false =>
    rw [hexpired] at hholds
    cases hrequired : definition.required.isEmpty with
    | true =>
      refine ⟨true, s, ?_, ?_, .refl hpure⟩
      · rw [gateOpen, Action.perform_bind, Action.perform_ask_clock, Action.andThen_ok,
          Action.perform_ite, hexpired, if_neg Bool.false_ne_true, hrequired]
        rfl
      · rw [List.isEmpty_iff] at hrequired
        simp [hholds, hrequired]
    | false =>
      cases henter : s.work.guard.enter? (Guard.frame feature key) with
      | none =>
        refine ⟨false, _, resolver.perform_gateOpen_of_met hexpired hrequired henter, ?_,
          .of_quiet (.trans (.warned s _) (.told _ resolver _)) hpure⟩
        simp [hcycle (Guard.enter?_eq_none_iff.mp henter)]
      | some inside =>
        obtain ⟨met, t, hperform, hmet, hunmoved⟩ :=
          resolver.exists_perform_allOpen source definition.required
            (fun r hr => hagain inside henter r ⟨definition, hdef, hr⟩) (.refl hpure)
        refine ⟨met, t.within t.work.guard.leave,
          resolver.perform_gateOpen_of_entered hexpired hrequired henter hperform, ?_, ?_⟩
        · rw [hmet, hholds]
          exact (and_iff_right rfl).symm
        · refine ⟨hunmoved.ambient, ?_, hunmoved.gates, hunmoved.pure⟩
          show t.work.guard.leave = s.work.guard
          rw [hunmoved.guard]
          exact Guard.leave_of_enter? henter

/-- **One step of resolution** answers for a feature under the same
conditions, and settles it if it is open. -/
theorem exists_perform_resolveStep {again : String → Context → Action FeatureValue}
    {s : State Rows} (hpure : s.world.closures.ArePure) {feature key : String}
    (hkey : resolver.keyUnder s.work.ambient context = key)
    (hagain : ∀ inside, s.work.guard.enter? (Guard.frame feature key) = some inside →
      ∀ r, (resolver.gates source context s).Requires feature r →
        resolver.AnswersFrom source context again (s.within inside) r)
    (hcycle : Guard.frame feature key ∈ s.work.guard.frames →
      ¬ (resolver.gates source context s).Holds feature) :
    ∃ value t, (resolver.resolveStep again feature context).perform
          Store.memory source.membership s = (.ok value, t)
      ∧ (resolver.gates source context s).Answers feature value
      ∧ resolver.Unmoved source context s t
      ∧ ((resolver.gates source context s).Holds feature →
          t.Settles resolver context feature) := by
  rw [resolveStep, Action.perform_bind, Action.perform_contextKey, Action.andThen_ok, hkey,
    Action.perform_bind, Action.perform_get, Action.andThen_ok]
  dsimp only
  cases hdef : s.work.registry.get? feature with
  | none =>
    obtain ⟨t, hperform, hleaves⟩ :=
      resolver.exists_perform_resolveOpen source hpure feature hkey
    rw [hdef] at hperform
    refine ⟨_, t, hperform, ⟨fun _ => rfl, fun hgate => ?_⟩, hleaves.toUnmoved,
      fun _ => hleaves.settles⟩
    exact absurd (Gates.holds_of_get?_eq_none hdef) hgate
  | some definition =>
    obtain ⟨met, t, hgate, hmet, hst⟩ :=
      resolver.exists_perform_gateOpen source hpure hdef key hagain hcycle
    show ∃ value u, (resolver.gateOpen again definition feature context key >>= _ :
      Action FeatureValue).perform _ _ _ = (Except.ok value, u) ∧ _
    rw [Action.perform_bind, hgate, Action.andThen_ok, Action.perform_ite]
    cases met with
    | false =>
      have hclosed : ¬ (resolver.gates source context s).Holds feature :=
        fun h => Bool.false_ne_true (hmet.mpr h)
      exact ⟨.inactive, t, rfl, ⟨fun h => absurd h hclosed, fun _ => rfl⟩, hst,
        fun h => absurd h hclosed⟩
    | true =>
      have hkey' : resolver.keyUnder t.work.ambient context = key := by rw [hst.ambient, hkey]
      obtain ⟨u, hperform, hleaves⟩ :=
        resolver.exists_perform_resolveOpen source hst.pure feature hkey'
      rw [hst.registry, hdef] at hperform
      refine ⟨_, u, hperform, ⟨fun _ => ?_, fun h => absurd (hmet.mp rfl) h⟩,
        hst.trans hleaves.toUnmoved, fun _ => hleaves.settles⟩
      exact congrFun (congrArg Gates.base hst.gates) feature

/-! ## Nested calls -/

/-- **What is in flight above a feature**: features that require it, directly or
through others, and each of them once. -/
structure InFlight (context : Context) (s : State Rows) (path : List String)
    (feature : String) : Prop where
  /-- The frames are those of the features on the path. -/
  frames : s.work.guard.frames
    = path.map (Guard.frame · (resolver.keyUnder s.work.ambient context))
  /-- No feature is on the path twice. -/
  nodup : path.Nodup
  /-- Every one of them requires the feature. -/
  requires : ∀ p ∈ path, TransGen (resolver.gates source context s).Requires p feature

namespace InFlight

variable {resolver source} {s t : State Rows} {path : List String} {feature : String}

theorem length_le (h : resolver.InFlight source context s path feature) :
    path.length ≤ s.work.registry.gatedCount :=
  Gates.length_le_gatedCount _ h.nodup h.requires

theorem of_unmoved (h : resolver.InFlight source context s path feature)
    (hst : resolver.Unmoved source context s t) :
    resolver.InFlight source context t path feature := by
  refine ⟨?_, h.nodup, ?_⟩
  · rw [hst.guard, hst.ambient, h.frames]
  · rw [hst.gates]
    exact h.requires

/-- A feature whose frame is in flight requires itself. -/
theorem requires_self (h : resolver.InFlight source context s path feature)
    (hmem : Guard.frame feature (resolver.keyUnder s.work.ambient context)
      ∈ s.work.guard.frames) :
    TransGen (resolver.gates source context s).Requires feature feature := by
  rw [h.frames, List.mem_map_of_injective (Guard.frame_injective _)] at hmem
  exact h.requires feature hmem

/-- Once a feature is entered, it is in flight above what it requires. -/
theorem enter (h : resolver.InFlight source context s path feature) {inside : Guard}
    (henter : s.work.guard.enter?
      (Guard.frame feature (resolver.keyUnder s.work.ambient context)) = some inside)
    {r : String} (hr : (resolver.gates source context s).Requires feature r) :
    resolver.InFlight source context (s.within inside) (path ++ [feature]) r := by
  refine ⟨?_, ?_, fun p hp => ?_⟩
  · show inside.frames
      = (path ++ [feature]).map (Guard.frame · (resolver.keyUnder s.work.ambient context))
    rw [Guard.frames_of_enter? henter, h.frames, List.map_append]
    rfl
  · refine List.concat_eq_append ▸ h.nodup.concat fun hmem => Guard.notMem_of_enter? henter ?_
    exact h.frames ▸ List.mem_map_of_mem hmem
  · rcases List.mem_append.mp hp with hp | hp
    · exact (h.requires p hp).tail hr
    · exact List.mem_singleton.mp hp ▸ .single hr

end InFlight

/-- **Nested calls answer as the gates say**, whatever is in flight above, if
there is depth enough left. -/
theorem exists_perform_resolveNested (floor : String → Context → Action FeatureValue)
    (depth : Nat) {feature : String} {path : List String} {s : State Rows}
    (hpure : s.world.closures.ArePure)
    (hpath : resolver.InFlight source context s path feature)
    (hdepth : s.work.registry.gatedCount < depth + path.length) :
    ∃ value t, (resolver.resolveNested floor depth feature context).perform
          Store.memory source.membership s = (.ok value, t)
      ∧ (resolver.gates source context s).Answers feature value
      ∧ resolver.Unmoved source context s t
      ∧ ((resolver.gates source context s).Holds feature →
          t.Settles resolver context feature) := by
  induction depth generalizing feature path s with
  | zero =>
    -- as many frames as there are features with requirements: no more can follow
    have hlength := hpath.length_le
    omega
  | succ depth ih =>
    refine resolver.exists_perform_resolveStep source hpure rfl ?_ ?_
    · -- a requirement, with one frame more above it and one call less below
      intro inside henter r hr t ht
      obtain ⟨value, u, hperform, hanswers, hunmoved, -⟩ :=
        ih ht.pure ((hpath.enter henter hr).of_unmoved ht) (by
          rw [ht.registry, List.length_append, List.length_singleton]
          show s.work.registry.gatedCount < _
          omega)
      exact ⟨value, u, hperform, ht.gates ▸ hanswers, ht.trans hunmoved⟩
    · -- a frame that is met again is on a circle
      exact fun hmem => Gates.not_holds_of_cycle .refl (hpath.requires_self hmem)

/-! ## The answer -/

/-- Resolving answers as the gates say, whatever was in flight before, and settles what is
open. -/
theorem exists_perform_resolve {s : State Rows} (hpure : s.world.closures.ArePure)
    (feature : String) (context : Context) :
    ∃ value t, (resolver.resolve feature context).perform Store.memory source.membership s
        = (.ok value, t)
      ∧ (resolver.gates source context s).Answers feature value
      ∧ resolver.Unmoved source context (s.within .empty) t
      ∧ ((resolver.gates source context s).Holds feature →
          t.Settles resolver context feature) := by
  rw [resolve, Action.perform_bind, Action.perform_modify, Action.andThen_ok,
    Action.perform_bind, Action.perform_get, Action.andThen_ok]
  have hpath : resolver.InFlight source context (s.within .empty) [] feature :=
    ⟨rfl, List.nodup_nil, by simp⟩
  exact resolver.exists_perform_resolveNested source _ _ hpure hpath (Nat.lt_succ_self _)

/-- **Resolution computes the least fixed point of the gates**, for any
definitions, cache and rows, and any source of membership that does not fail.

* A feature whose gate holds comes out with its value, and any other one
  inactive.
* So does every feature on a circle of requirements, or above one.
* The answer is the same for the feature as a requirement, with any frames in
  flight that can be there then. -/
theorem resolve_least_fixed_point (resolver : Resolver) (source : Source) (s : State Rows)
    (hpure : s.world.closures.ArePure) (feature : String) (context : Context) :
    ∃ value t,
      (resolver.resolve feature context).perform Store.memory source.membership s
          = (.ok value, t)
        ∧ ((resolver.gates source context s).Holds feature →
            value = resolver.baseValue source context s feature)
        ∧ (¬ (resolver.gates source context s).Holds feature → value = .inactive)
        ∧ (∀ g, ReflTransGen (resolver.gates source context s).Requires feature g →
            TransGen (resolver.gates source context s).Requires g g → value = .inactive)
        ∧ ∀ floor depth guard path,
            resolver.InFlight source context (s.within guard) path feature →
            s.work.registry.gatedCount < depth + path.length →
            ∃ u, (resolver.resolveNested floor depth feature context).perform
              Store.memory source.membership (s.within guard) = (.ok value, u) := by
  obtain ⟨value, t, hperform, hanswers, -⟩ :=
    resolver.exists_perform_resolve source hpure feature context
  refine ⟨value, t, hperform, hanswers.1, hanswers.2, fun g hfg hg => ?_, ?_⟩
  · exact hanswers.2 (Gates.not_holds_of_cycle hfg hg)
  · intro floor depth guard path hpath hdepth
    obtain ⟨value', u, hnested, hanswers', -⟩ :=
      resolver.exists_perform_resolveNested source floor depth (s := s.within guard) hpure
        hpath hdepth
    exact ⟨u, by rw [hnested, hanswers.unique hanswers']⟩

/-- A feature above two that require each other, and with a closure besides,
resolves inactive. -/
theorem resolve_least_fixed_point_circle :
    let requiring (name required : String) : Definition :=
      { Definition.ofRule name (.closure ⟨0⟩) with required := [required] }
    let registry : Registry := ⟨((∅ : Std.ExtTreeMap String Definition).insert "a"
      (requiring "a" "b")).insert "b" (requiring "b" "a") |>.insert "c" (requiring "c" "a")⟩
    let resolver : Resolver := ⟨.none, .standard, true, true, none⟩
    let world : World Rows := .start .epoch ∅ ⟨[(.echo, 0)]⟩
    ∃ t, (resolver.resolve "c" (.scalar "ada")).perform Store.memory
      Groups.empty.source.membership ⟨.start registry none, world⟩ = (.ok .inactive, t) := by
  intro requiring registry resolver world
  have hpure : world.closures.ArePure := by
    intro entry hentry
    rw [List.mem_singleton.mp hentry]
    exact Computation.isPure_echo
  obtain ⟨value, t, hperform, -, -, hcircle, -⟩ :=
    resolve_least_fixed_point resolver Groups.empty.source ⟨.start registry none, world⟩ hpure
      "c" (.scalar "ada")
  have hrequires : ∀ {f r : String}, registry.get? f = some (requiring f r) →
      (resolver.gates Groups.empty.source (.scalar "ada")
        ⟨.start registry none, world⟩).Requires f r :=
    fun {f r} h => ⟨requiring f r, h, List.mem_singleton_self r⟩
  have hca := hrequires (f := "c") (r := "a") (by simp [registry, Registry.get?])
  have hab := hrequires (f := "a") (r := "b") (by
    simp [registry, Registry.get?, Std.ExtTreeMap.getElem_insert])
  have hba := hrequires (f := "b") (r := "a") (by
    simp [registry, Registry.get?, Std.ExtTreeMap.getElem_insert])
  refine ⟨t, ?_⟩
  rw [hperform, hcircle "a" (.single hca) (.head hab (.single hba))]

end Resolver

end FeatureGate
