import FeatureGate.Proofs.Reports
import FeatureGate.Resolver.Build
import FeatureGate.World

/-!
# What a failed build leaves behind

Building checks the configuration, the aliases and the connection before it registers
anything, and no call of the store is ever made. The definitions are not checked
together: each of them is registered before the next one is looked at, in a registry
that others may share. So when one is refused, those before it stay.

This module says what is in the registry afterwards, and when a build that fails has
no effect (`Builder.build_harmless_iff`).
-/

namespace FeatureGate

/-- Whether a definition can be registered. -/
def Definition.isFit (definition : Definition) : Bool := definition.validate.isOk

/-- **The last definition of a feature** in a list. -/
def Definition.latest? (definitions : List Definition) (name : String) : Option Definition :=
  definitions.reverse.find? (·.name == name)

/-- A definition counts only if none follows that is of the same feature. -/
theorem Definition.latest?_cons (definition : Definition) (rest : List Definition)
    (name : String) :
    latest? (definition :: rest) name
      = (latest? rest name).or (if definition.name = name then some definition else none) := by
  unfold latest?
  rw [List.reverse_cons, List.find?_append]
  by_cases hname : definition.name = name <;> simp [hname]

namespace Registry

/-- Whether a definition is registered depends on the definition only. -/
theorem define_eq_map (registry : Registry) (definition : Definition) :
    registry.define definition
      = definition.validate.map fun _ =>
          ⟨registry.definitions.insert definition.name definition⟩ := by
  unfold define
  cases definition.validate <;> rfl

/-- Registries in which the same is found are the same. -/
theorem ext_get? {registry registry' : Registry}
    (h : ∀ name, registry.get? name = registry'.get? name) : registry = registry' := by
  obtain ⟨definitions⟩ := registry
  obtain ⟨definitions'⟩ := registry'
  exact congrArg Registry.mk (Std.ExtTreeMap.ext_getElem? fun {name} => h name)

end Registry

namespace Builder

open Registry (define_eq_map)
open Resolver (Work OnlyAsks interface)

/-- **What comes of building**, whatever the registry and whoever replies: the first thing that
is wrong, or the resolver. -/
def outcome (builder : Builder) : Except FeatureError Resolver := do
  let resolver ← builder.resolver
  builder.definitions.forM Definition.validate
  return resolver

/-- **The definitions that a builder registers**: if it comes to register any, those before the
first one that is refused. -/
def registered (builder : Builder) : List Definition :=
  match builder.resolver with
  | .ok _ => builder.definitions.takeWhile (·.isFit)
  | .error _ => []

variable {σ : Type} {work : Work}

/-- **Registering one definition after another** ends with the first one that is refused, and
those before it stay registered. -/
theorem transcribes_forM_define (resolver : Resolver) (definitions : List Definition)
    (work : Work) :
    (definitions.forM resolver.define : Resolver.Action Unit).Transcribes work
      fun result after transcript =>
        result = definitions.forM Definition.validate
          ∧ OnlyAsks Request.IsSilent transcript
          ∧ ∀ name, after.registry.get? name
            = (Definition.latest? (definitions.takeWhile (·.isFit)) name).or
                (work.registry.get? name) := by
  induction definitions generalizing work with
  | nil => exact .pure ⟨rfl, .nil, fun _ => rfl⟩
  | cons definition rest ih =>
    show (resolver.define definition >>= fun _ => rest.forM resolver.define :
      Resolver.Action Unit).Transcribes work _
    have hdefine := define_eq_map work.registry definition
    have hforM : (definition :: rest).forM Definition.validate
        = definition.validate >>= fun _ => rest.forM Definition.validate := rfl
    cases hvalid : definition.validate with
    | error refusal =>
      rw [hvalid] at hdefine
      have hnone : (definition :: rest).takeWhile (·.isFit) = [] :=
        List.takeWhile_cons_of_neg (by simp [Definition.isFit, hvalid, Except.isOk, Except.toBool])
      rw [hnone, hforM, hvalid]
      refine .bind (resolver.transcribes_define definition) ?_ ?_
      · rintro ⟨⟩ _ _ ⟨-, hdefined⟩
        rw [hdefine] at hdefined
        cases hdefined.1
      · rintro error _ _ ⟨hsilent, hrefused⟩
        rw [hdefine] at hrefused
        obtain ⟨⟨⟩, rfl⟩ := hrefused
        exact ⟨rfl, hsilent, fun _ => rfl⟩
    | ok fit =>
      rw [hvalid] at hdefine
      have hsome : (definition :: rest).takeWhile (·.isFit)
          = definition :: rest.takeWhile (·.isFit) :=
        List.takeWhile_cons_of_pos (by simp [Definition.isFit, hvalid, Except.isOk, Except.toBool])
      rw [hsome, hforM, hvalid]
      refine .bind (resolver.transcribes_define definition) ?_ ?_
      · rintro ⟨⟩ middle before ⟨hbefore, hdefined⟩
        rw [hdefine] at hdefined
        obtain ⟨-, rfl⟩ := hdefined
        refine (ih _).mono ?_
        rintro result after transcript ⟨hresult, hsilent, hregistry⟩
        refine ⟨hresult, hbefore.append hsilent, fun name => ?_⟩
        rw [hregistry name, Definition.latest?_cons, Option.or_assoc]
        refine congrArg _ ((Registry.get?_define hdefine name).trans ?_)
        split <;> rfl
      · rintro error _ _ ⟨-, hdefined⟩
        rw [hdefine] at hdefined
        cases hdefined.1

/-- **How building goes**, whatever is replied. -/
structure Builds (builder : Builder) (work : Work) (result : Except FeatureError Resolver)
    (after : Work) (transcript : List (Exchange interface)) : Prop where
  /-- The first thing that is wrong ends it. -/
  result : result = builder.outcome
  /-- Neither the store nor the listener is asked for anything. -/
  silent : OnlyAsks Request.IsSilent transcript
  /-- What is found in the registry was registered, or was there. -/
  registry (name : String) : after.registry.get? name
    = (Definition.latest? builder.registered name).or (work.registry.get? name)

/-- **To build** is to check, and then to register one definition after another. -/
theorem transcribes_build (builder : Builder) (work : Work) :
    builder.build.Transcribes work (builder.Builds work) := by
  have hchecked : (Resolver.ofExcept builder.resolver).Transcribes work
      fun result after transcript =>
        result = builder.resolver ∧ after = work ∧ transcript = [] :=
    Resolver.Action.Yields.ofExcept ⟨rfl, rfl, rfl⟩
  unfold build
  refine .bind hchecked ?_ ?_
  · rintro resolver _ _ ⟨hresolver, rfl, rfl⟩
    have hregistered : builder.registered = builder.definitions.takeWhile (·.isFit) := by
      rw [registered, ← hresolver]
    have houtcome : builder.outcome
        = builder.definitions.forM Definition.validate >>= fun _ => .ok resolver := by
      rw [outcome, ← hresolver]
      rfl
    refine .bind (transcribes_forM_define resolver builder.definitions _) ?_ ?_
    · rintro ⟨⟩ after before ⟨hvalid, hsilent, hregistry⟩
      refine .pure ⟨?_, hsilent.append .nil, fun name => hregistered ▸ hregistry name⟩
      rw [houtcome, ← hvalid]
      rfl
    · rintro error after before ⟨hrefused, hsilent, hregistry⟩
      refine ⟨?_, hsilent, fun name => hregistered ▸ hregistry name⟩
      rw [houtcome, ← hrefused]
      rfl
  · rintro error _ _ ⟨hfailed, rfl, rfl⟩
    refine ⟨?_, .nil, fun name => ?_⟩
    · rw [outcome, ← hfailed]
      rfl
    · rw [registered, ← hfailed]
      rfl

/-- **When a build that fails has no effect.** No row is ever touched, and nothing is delivered.
The registry is what it was just if everything that was registered before the failure had been
registered just so: above all if nothing was, since what failed was a check of the
configuration, the aliases or the first definition, or the connection. -/
theorem build_harmless_iff (answer : (request : Request) → StateM σ request.Reply)
    (builder : Builder) (work : Work) (s : σ) {error : FeatureError}
    (hfailed : (builder.build.course answer work s).result = .error error) :
    let course := builder.build.course answer work s
    builder.outcome = .error error
      ∧ OnlyAsks Request.IsSilent course.transcript
      ∧ (∀ name, course.work.registry.get? name
        = (Definition.latest? builder.registered name).or (work.registry.get? name))
      ∧ (course.work.registry = work.registry
        ↔ ∀ name definition, Definition.latest? builder.registered name = some definition →
          work.registry.get? name = some definition) := by
  intro course
  have hbuilds : builder.Builds work _ course.work course.transcript :=
    (builder.transcribes_build work).course answer s
  refine ⟨hbuilds.result.symm.trans hfailed, hbuilds.silent, hbuilds.registry, ?_, ?_⟩
  · intro hsame name definition hlatest
    rw [← hsame, hbuilds.registry name, hlatest]
    rfl
  · refine fun hthere => Registry.ext_get? fun name => ?_
    rw [hbuilds.registry name]
    cases hlatest : Definition.latest? builder.registered name with
    | none => rfl
    | some definition => exact (hthere name definition hlatest).symm

/-- The second definition is refused, but the first was registered just so: the registry is what
it was. -/
theorem build_harmless_iff_registered :
    let registry : Registry := ⟨(∅ : Std.ExtTreeMap String Definition).insert "dark"
      (.ofRule "dark" (.constant (.bool false)))⟩
    let builder : Builder := { Builder.standard with definitions :=
      [.ofRule "dark" (.constant (.bool false)), .ofRule "rollout" (.percentage 150)] }
    let course := builder.build.course (World.answer Store.memory .none) (.start registry none)
      (.start .epoch ∅ ⟨[]⟩)
    course.result = .error (.invalidPercentage "rollout" 150)
      ∧ course.work.registry = registry := by
  intro registry builder course
  have houtcome : builder.outcome = .error (.invalidPercentage "rollout" 150) := rfl
  have hfailed : course.result = .error (.invalidPercentage "rollout" 150) :=
    ((transcribes_build builder _).course _ _).result.trans houtcome
  have hregistered : builder.registered = [.ofRule "dark" (.constant (.bool false))] := rfl
  have hdark : registry.get? "dark" = some (.ofRule "dark" (.constant (.bool false))) := by
    subst registry
    decide +kernel
  refine ⟨hfailed, (build_harmless_iff _ builder _ _ hfailed).2.2.2.mpr fun name latest h => ?_⟩
  rw [hregistered, Definition.latest?_cons] at h
  obtain ⟨rfl, hlatest⟩ := Option.ite_none_right_eq_some.mp h
  exact hdark.trans hlatest

/-- **A failed build may replace a definition.** The feature `dark` is registered as always off; a
builder has it always on, and a rollout to more than everybody. It is refused, and the feature
is on. -/
theorem not_build_harmless_of_rollout :
    let registry : Registry := ⟨(∅ : Std.ExtTreeMap String Definition).insert "dark"
      (.ofRule "dark" (.constant (.bool false)))⟩
    let builder : Builder := { Builder.standard with definitions :=
      [.ofRule "dark" (.constant (.bool true)), .ofRule "rollout" (.percentage 150)] }
    let course := builder.build.course (World.answer Store.memory .none) (.start registry none)
      (.start .epoch ∅ ⟨[]⟩)
    course.result = .error (.invalidPercentage "rollout" 150)
      ∧ registry.get? "dark" = some (.ofRule "dark" (.constant (.bool false)))
      ∧ course.work.registry.get? "dark" = some (.ofRule "dark" (.constant (.bool true)))
      ∧ course.work.registry ≠ registry := by
  intro registry builder course
  have hbefore : registry.get? "dark" = some (.ofRule "dark" (.constant (.bool false))) := by
    subst registry
    decide +kernel
  have hafter : course.work.registry.get? "dark"
      = some (.ofRule "dark" (.constant (.bool true))) := by
    subst course builder registry
    decide +kernel
  have houtcome : builder.outcome = .error (.invalidPercentage "rollout" 150) := rfl
  refine ⟨((transcribes_build builder _).course _ _).result.trans houtcome, hbefore, hafter,
    fun hsame => ?_⟩
  rw [hsame, hbefore] at hafter
  cases hafter

end Builder

end FeatureGate
