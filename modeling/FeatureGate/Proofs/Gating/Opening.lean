import FeatureGate.Proofs.Nesting.Depth
import FeatureGate.Proofs.Resolution.Opened

/-!
# Requirements that come out active

A gate is passed if everything behind it comes out active. Then the whole of what is required,
directly or through others, was resolved in a certain order, and this order has nothing to do
with the frames in flight: each feature comes after those that it requires, and is resolved
from where they leave off (`Opening`).

No such order goes through a circle, so a feature does not come back in it to one whose gate is
being asked for. It follows that requirements which come out active when they are asked for from
outside come out active behind the gate as well, and leave the same state behind, whatever the
closures do (`Resolver.perform_resolve_of_allAreActive`).
-/

namespace FeatureGate

open Store (Rows)
open Relation (ReflTransGen TransGen)

namespace Registry

variable {registry : Registry} {feature r : String}

/-- **The features that a feature requires**, in order; none if it is not defined. -/
def required (registry : Registry) (feature : String) : List String :=
  ((registry.get? feature).map Definition.required).getD []

theorem required_of_get? {definition : Definition}
    (h : registry.get? feature = some definition) :
    registry.required feature = definition.required := by
  rw [required, h]
  rfl

theorem required_of_get?_eq_none (h : registry.get? feature = none) :
    registry.required feature = [] := by
  rw [required, h]
  rfl

theorem mem_required_iff : r ∈ registry.required feature ↔ registry.Requires feature r := by
  unfold required Requires
  cases registry.get? feature <;> simp

end Registry

namespace Resolver

/-! ## Features that come out active -/

/-- **Features are resolved one after another, and each comes out active**: it has not expired,
and is resolved after what it requires. Which frames are in flight is not asked. -/
inductive Opening (resolver : Resolver) (source : Source) (context : Context) :
    List String → State Rows → State Rows → Prop where
  /-- Nothing is left to resolve. -/
  | nil (s : State Rows) : Opening resolver source context [] s s
  /-- The first feature is resolved after what it requires, and then the others. -/
  | cons {feature : String} {rest : List String} {s t u : State Rows}
      (unexpired : ∀ definition, s.work.registry.get? feature = some definition →
        definition.isExpiredAt s.world.now = false)
      (met : Opening resolver source context (s.work.registry.required feature) s t)
      (active : (resolver.baseValue source context t feature).isActive)
      (others : Opening resolver source context rest (t.opened resolver source context feature) u) :
      Opening resolver source context (feature :: rest) s u

namespace Opening

variable {resolver : Resolver} {source : Source} {context : Context}
  {features rest : List String} {feature : String} {s t u : State Rows}

/-- **Only features that are needed are touched.** -/
theorem sameBut (h : resolver.Opening source context features s t) :
    s.SameBut (fun g => ∃ f ∈ features, ReflTransGen s.work.registry.Requires f g) t := by
  induction h with
  | nil s => exact .refl _ s
  | @cons feature rest s t u _ _ _ _ ihmet ihothers =>
    have hregistry := ihmet.registry
    have hopened := resolver.sameBut_opened source context t feature
    refine (ihmet.mono ?_).trans ((hopened.mono ?_).trans (ihothers.mono ?_))
    · rintro g ⟨r, hr, hg⟩
      exact ⟨feature, List.mem_cons_self, .head (Registry.mem_required_iff.mp hr) hg⟩
    · rintro g rfl
      exact ⟨g, List.mem_cons_self, .refl⟩
    · rintro g ⟨f, hf, hg⟩
      rw [hopened.registry, hregistry] at hg
      exact ⟨f, List.mem_cons_of_mem _ hf, hg⟩

theorem eq_of_nil (h : resolver.Opening source context features s t) (hnil : features = []) :
    t = s := by
  cases h with
  | nil => rfl
  | cons => cases hnil

theorem trans (h : resolver.Opening source context [feature] s t)
    (hrest : resolver.Opening source context rest t u) :
    resolver.Opening source context (feature :: rest) s u := by
  cases h with
  | cons unexpired met active others =>
    cases others
    exact .cons unexpired met active hrest

theorem within (h : resolver.Opening source context features s t) (guard : Guard) :
    resolver.Opening source context features (s.within guard) (t.within guard) := by
  induction h with
  | nil s => exact .nil _
  | cons unexpired _ active _ ihmet ihothers =>
    refine .cons unexpired ihmet active ?_
    rw [opened_within]
    exact ihothers

/-- **No feature that comes out active is on a circle**: it would have been resolved after
itself. -/
theorem not_requires_self (h : resolver.Opening source context features s t)
    (hmem : feature ∈ features) : ¬ TransGen s.work.registry.Requires feature feature := by
  induction h generalizing feature with
  | nil s => cases hmem
  | @cons first rest s t u _ hmet _ _ ihmet ihothers =>
    rcases List.mem_cons.mp hmem with rfl | hrest
    · intro hcircle
      obtain ⟨r, hr, hback⟩ := TransGen.head'_iff.mp hcircle
      exact ihmet (Registry.mem_required_iff.mpr hr) (.tail' hback hr)
    · have hregistry := (resolver.sameBut_opened source context t first).registry
      rw [hregistry, hmet.sameBut.registry] at ihothers
      exact ihothers hrest

end Opening

/-! ## From runs to what came out active, and back -/

section Steps

variable {resolver : Resolver} {source : Source} {context : Context} {feature : String}
  {again : String → Context → Action FeatureValue} {s t : State Rows}

/-- **A step that passes the gate** resolves the open feature: what it requires is asked for
from within its frame, which is taken off again. -/
theorem perform_resolveStep_of_allOpen
    (hunexpired : ∀ definition, s.work.registry.get? feature = some definition →
      definition.isExpiredAt s.world.now = false)
    (hnone : s.work.registry.required feature = [] → t = s)
    (hsome : s.work.registry.required feature ≠ [] → ∃ inside,
      s.work.guard.enter? (Guard.frame feature (resolver.keyUnder s.work.ambient context))
          = some inside
        ∧ (allOpen again context (s.work.registry.required feature)).perform Store.memory
            source.membership (s.within inside) = (.ok true, t.within inside))
    (hkept : s.work.Kept t.work) :
    (resolver.resolveStep again feature context).perform Store.memory source.membership s
      = (.ok (resolver.baseValue source context t feature),
          t.opened resolver source context feature) := by
  have hopen := perform_resolveOpen resolver source context t feature
  rw [hkept.ambient, hkept.registry] at hopen
  rw [resolveStep, Action.perform_bind, Action.perform_contextKey, Action.andThen_ok,
    Action.perform_bind, Action.perform_get, Action.andThen_ok]
  dsimp only
  cases hdef : s.work.registry.get? feature with
  | none =>
    obtain rfl := hnone (Registry.required_of_get?_eq_none hdef)
    rw [hdef] at hopen
    exact hopen
  | some definition =>
    rw [Registry.required_of_get? hdef] at hnone hsome
    rw [hdef] at hopen
    have hgate : (resolver.gateOpen again definition feature context
        (resolver.keyUnder s.work.ambient context)).perform Store.memory source.membership s
          = (.ok true, t) := by
      cases hrequired : definition.required.isEmpty with
      | true =>
        obtain rfl := hnone (List.isEmpty_iff.mp hrequired)
        rw [gateOpen, Action.perform_bind, Action.perform_ask_clock, Action.andThen_ok,
          Action.perform_ite, hunexpired definition hdef, if_neg Bool.false_ne_true, hrequired]
        rfl
      | false =>
        obtain ⟨inside, henter, hall⟩ := hsome (List.isEmpty_eq_false_iff.mp hrequired)
        rw [perform_gateOpen_of_entered resolver (hunexpired definition hdef) hrequired henter
          hall]
        show (Except.ok true, t.within inside.leave) = _
        rw [Guard.leave_of_enter? henter, ← hkept.guard]
        rfl
    show (resolver.gateOpen again definition feature context _ >>= _ :
      Action FeatureValue).perform _ _ _ = _
    rw [Action.perform_bind, hgate, Action.andThen_ok]
    exact hopen

/-- **Requirements that were all found active** came out active one after another. -/
theorem opening_of_allOpen
    (hagain : ∀ r {s t : State Rows} {value : FeatureValue},
      (again r context).perform Store.memory source.membership s = (.ok value, t) →
      value.isActive → resolver.Opening source context [r] s t)
    {required : List String}
    (h : (allOpen again context required).perform Store.memory source.membership s
      = (.ok true, t)) : resolver.Opening source context required s t := by
  induction required generalizing s with
  | nil =>
    cases h
    exact .nil s
  | cons r rest ih =>
    rw [allOpen, Action.perform_bind] at h
    rcases hfirst : (again r context).perform Store.memory source.membership s with ⟨result, u⟩
    rw [hfirst] at h
    cases result with
    | error e => cases h
    | ok value =>
      rw [Action.andThen_ok, Action.perform_ite] at h
      by_cases hactive : value.isActive
      · rw [if_pos hactive] at h
        exact (hagain r hfirst hactive).trans (ih h)
      · rw [if_neg hactive] at h
        cases h

/-- **A gate that was found open**: the feature has not expired, and what it requires came out
active. -/
theorem opening_of_gateOpen
    (hagain : ∀ r {s t : State Rows} {value : FeatureValue},
      (again r context).perform Store.memory source.membership s = (.ok value, t) →
      value.isActive → resolver.Opening source context [r] s t)
    {definition : Definition} {key : String}
    (h : (resolver.gateOpen again definition feature context key).perform Store.memory
      source.membership s = (.ok true, t)) :
    definition.isExpiredAt s.world.now = false
      ∧ resolver.Opening source context definition.required s t := by
  cases hexpired : definition.isExpiredAt s.world.now with
  | true =>
    rw [gateOpen, Action.perform_bind, Action.perform_ask_clock, Action.andThen_ok,
      Action.perform_ite, hexpired] at h
    cases h
  | false =>
    refine ⟨rfl, ?_⟩
    cases hempty : definition.required.isEmpty with
    | true =>
      rw [gateOpen, Action.perform_bind, Action.perform_ask_clock, Action.andThen_ok,
        Action.perform_ite, hexpired, if_neg Bool.false_ne_true, hempty] at h
      cases h
      rw [List.isEmpty_iff.mp hempty]
      exact .nil s
    | false =>
      cases henter : s.work.guard.enter? (Guard.frame feature key) with
      | none =>
        rw [perform_gateOpen_of_met resolver hexpired hempty henter] at h
        cases h
      | some inside =>
        rcases hall : (allOpen again context definition.required).perform Store.memory
          source.membership (s.within inside) with ⟨outcome, u⟩
        rw [perform_gateOpen_of_entered resolver hexpired hempty henter hall] at h
        cases h
        have hopening := opening_of_allOpen hagain hall
        have hleave : u.work.guard.leave = s.work.guard := by
          rw [hopening.sameBut.guard]
          exact Guard.leave_of_enter? henter
        rw [hleave]
        exact hopening.within s.work.guard

/-- **A step that comes to an active value** passed the gate. -/
theorem opening_of_resolveStep
    (hagain : ∀ r {s t : State Rows} {value : FeatureValue},
      (again r context).perform Store.memory source.membership s = (.ok value, t) →
      value.isActive → resolver.Opening source context [r] s t)
    {value : FeatureValue}
    (h : (resolver.resolveStep again feature context).perform Store.memory source.membership s
      = (.ok value, t)) (hactive : value.isActive) :
    resolver.Opening source context [feature] s t := by
  -- the open feature, from where the requirements leave off
  have hfinish : ∀ {u : State Rows},
      (∀ definition, s.work.registry.get? feature = some definition →
        definition.isExpiredAt s.world.now = false) →
      resolver.Opening source context (s.work.registry.required feature) s u →
      (resolver.resolveOpen feature context (resolver.keyUnder s.work.ambient context)
        (s.work.registry.get? feature)).perform Store.memory source.membership u = (.ok value, t) →
      resolver.Opening source context [feature] s t := by
    intro u hunexpired hmet hopen
    rw [← hmet.sameBut.ambient, ← hmet.sameBut.registry, perform_resolveOpen] at hopen
    cases hopen
    exact .cons hunexpired hmet hactive (.nil _)
  rw [resolveStep, Action.perform_bind, Action.perform_contextKey, Action.andThen_ok,
    Action.perform_bind, Action.perform_get, Action.andThen_ok] at h
  dsimp only at h
  cases hdef : s.work.registry.get? feature with
  | none =>
    rw [hdef] at h
    refine hfinish (u := s) (by simp [hdef]) ?_ ?_
    · rw [Registry.required_of_get?_eq_none hdef]
      exact .nil s
    · rw [hdef]
      exact h
  | some definition =>
    rw [hdef] at h
    have hstep : (resolver.gateOpen again definition feature context
        (resolver.keyUnder s.work.ambient context) >>= fun isOpen =>
          if isOpen then resolver.resolveOpen feature context
            (resolver.keyUnder s.work.ambient context) (some definition)
          else pure .inactive : Action FeatureValue).perform Store.memory source.membership s
        = (.ok value, t) := h
    rcases hgate : (resolver.gateOpen again definition feature context
      (resolver.keyUnder s.work.ambient context)).perform Store.memory source.membership s
        with ⟨outcome, u⟩
    rw [Action.perform_bind, hgate] at hstep
    cases outcome with
    | error e => cases hstep
    | ok isOpen =>
      cases isOpen with
      | false =>
        cases hstep
        cases hactive
      | true =>
        obtain ⟨hunexpired, hmet⟩ := opening_of_gateOpen hagain hgate
        refine hfinish (u := u) ?_ ?_ ?_
        · intro d hd
          rw [hdef] at hd
          exact Option.some.inj hd ▸ hunexpired
        · rw [Registry.required_of_get? hdef]
          exact hmet
        · rw [hdef]
          exact hstep

/-- **A nested call that comes to an active value.** -/
theorem opening_of_resolveNested {depth : Nat} {value : FeatureValue}
    (h : (resolver.resolveNested (fun _ _ => pure .inactive) depth feature context).perform
      Store.memory source.membership s = (.ok value, t)) (hactive : value.isActive) :
    resolver.Opening source context [feature] s t := by
  induction depth generalizing feature s t value with
  | zero =>
    cases h
    cases hactive
  | succ depth ih => exact opening_of_resolveStep (fun r => ih) h hactive

/-- **What comes out active does so behind any gate**, as long as no feature that is needed has
its frame in flight. -/
theorem Opening.perform_allOpen {features : List String}
    (floor : String → Context → Action FeatureValue)
    (h : resolver.Opening source context features s t) (guard : Guard)
    (hout : ∀ f ∈ features, ∀ g, ReflTransGen s.work.registry.Requires f g →
      Guard.frame g (resolver.keyUnder s.work.ambient context) ∉ guard.frames) :
    (allOpen (resolver.resolveDeep floor) context features).perform Store.memory
      source.membership (s.within guard) = (.ok true, t.within guard) := by
  induction h generalizing guard with
  | nil s => rfl
  | @cons feature rest s t u hunexpired hmet hactive hothers ihmet ihothers =>
    have hstep : (resolver.resolveDeep floor feature context).perform Store.memory
        source.membership (s.within guard)
        = (.ok (resolver.baseValue source context (t.within guard) feature),
            (t.within guard).opened resolver source context feature) := by
      rw [← resolveStep_resolveDeep]
      refine perform_resolveStep_of_allOpen hunexpired (hmet.within guard).eq_of_nil (fun _ => ?_)
        (hmet.within guard).sameBut.toKept
      have hfeature := hout feature List.mem_cons_self feature .refl
      cases henter : guard.enter? (Guard.frame feature
          (resolver.keyUnder s.work.ambient context)) with
      | none => exact absurd (Guard.enter?_eq_none_iff.mp henter) hfeature
      | some inside =>
        refine ⟨inside, henter, ihmet inside fun r hr g hg => ?_⟩
        have hrequires := Registry.mem_required_iff.mp hr
        rw [Guard.frames_of_enter? henter, List.mem_append, List.mem_singleton]
        rintro (hbefore | hsame)
        · exact hout feature List.mem_cons_self g (.head hrequires hg) hbefore
        · -- the feature itself is not needed again, since it is on no circle
          obtain rfl := Guard.frame_injective _ hsame
          exact (Opening.cons hunexpired hmet hactive (.nil _)).not_requires_self
            List.mem_cons_self (.head' hrequires hg)
    have hopened := resolver.sameBut_opened source context t feature
    have hactive' : (resolver.baseValue source context (t.within guard) feature).isActive :=
      hactive
    rw [allOpen, Action.perform_bind, hstep, Action.andThen_ok, Action.perform_ite,
      if_pos hactive', opened_within]
    refine ihothers guard fun f hf g hg => ?_
    rw [hopened.ambient, hmet.sameBut.ambient]
    rw [hopened.registry, hmet.sameBut.registry] at hg
    exact hout f (List.mem_cons_of_mem _ hf) g hg

/-! ## Requirements asked for from outside -/

/-- A resolution is nested deep enough, with nothing in flight. -/
theorem perform_resolve_eq_resolveDeep (feature : String) (s : State Rows) :
    (resolver.resolve feature context).perform Store.memory source.membership s
      = (resolver.resolveDeep (fun _ _ => pure .inactive) feature context).perform Store.memory
          source.membership (s.within .empty) := by
  unfold Action.perform World.run
  rw [program_resolve_eq_resolveDeep]
  rfl

/-- **Features found active one after another** came out active one after another. -/
theorem opening_of_allAreActive {features : List String}
    (h : (resolver.allAreActive features context).perform Store.memory source.membership s
      = (.ok true, t)) :
    resolver.Opening source context features (s.within .empty) (t.within .empty) := by
  induction features generalizing s with
  | nil =>
    cases h
    exact .nil _
  | cons first rest ih =>
    rw [allAreActive, Action.perform_bind, isActive, Action.perform_bind] at h
    rcases hfirst : (resolver.resolve first context).perform Store.memory source.membership s
      with ⟨result, u⟩
    rw [hfirst] at h
    cases result with
    | error e => cases h
    | ok value =>
      rw [Action.andThen_ok, Action.perform_pure, Action.andThen_ok, Action.perform_ite] at h
      by_cases hactive : value.isActive
      · rw [if_pos hactive] at h
        have hnested : (resolver.resolveNested (fun _ _ => pure .inactive)
            ((s.within .empty).work.registry.gatedCount + 1) first context).perform Store.memory
              source.membership (s.within .empty) = (.ok value, u) := by
          rw [← hfirst, perform_resolve_eq_resolveDeep]
          unfold Action.perform World.run
          rw [program_resolveDeep]
        have hopening := (opening_of_resolveNested hnested hactive).within .empty
        exact hopening.trans (ih h)
      · rw [if_neg hactive] at h
        cases h

/-- **A feature whose requirements are active** comes out with its value: if they are found
active from outside, they come out active behind its gate as well, and leave the same state
behind. The feature itself is left alone by that. -/
theorem perform_resolve_of_allAreActive
    (hunexpired : ∀ definition, s.work.registry.get? feature = some definition →
      definition.isExpiredAt s.world.now = false)
    (h : (resolver.allAreActive (s.work.registry.required feature) context).perform Store.memory
      source.membership s = (.ok true, t)) :
    (resolver.resolve feature context).perform Store.memory source.membership s
        = (.ok (resolver.baseValue source context t feature),
            (t.within .empty).opened resolver source context feature)
      ∧ (s.within .empty).SameBut (· ≠ feature) (t.within .empty) := by
  have hopening := opening_of_allAreActive h
  -- the feature is on no circle, because none of what it requires is
  have hneeded : ∀ r ∈ s.work.registry.required feature,
      ¬ ReflTransGen s.work.registry.Requires r feature := by
    intro r hr hback
    exact hopening.not_requires_self hr (.tail' hback (Registry.mem_required_iff.mp hr))
  refine ⟨?_, hopening.sameBut.mono ?_⟩
  · rw [perform_resolve_eq_resolveDeep, ← resolveStep_resolveDeep]
    refine perform_resolveStep_of_allOpen (s := s.within .empty) (t := t.within .empty)
      hunexpired hopening.eq_of_nil (fun _ => ?_) hopening.sameBut.toKept
    refine ⟨⟨[Guard.frame feature (resolver.keyUnder s.work.ambient context)]⟩, rfl, ?_⟩
    refine hopening.perform_allOpen _ _ fun r hr g hg hmem => hneeded r hr ?_
    obtain rfl := Guard.frame_injective _ (List.mem_singleton.mp hmem)
    exact hg
  · rintro g ⟨r, hr, hg⟩ rfl
    exact hneeded r hr hg

end Steps

end Resolver

end FeatureGate
