import FeatureGate.Proofs.Gating.Resolution
import FeatureGate.Proofs.Resolution.Footprint

/-!
# Readers do not disturb one another

Resolving a feature is a read for whoever asks, but it may write: the first value
of the feature for the context at hand, and of those it requires. Another context
has rows of its own, so it does not see this – unless the first values are those
of a group, which its members inherit. Otherwise the footprints of the two
resolutions are apart (`footprintOf_apart`), and what the one reads is what it
would have read without the other.
-/

namespace FeatureGate.Resolver

open Store (Rows)

/-- **A resolution leaves the footprint of another alone**, if they are for
different context keys, and the one is not for a group that grants the other a
feature that both need. -/
theorem footprintOf_apart {resolver : Resolver} {membership : Membership}
    {registry : Registry} {ambient : Option Scope} {feature other : String}
    {context reader : Context}
    (hkeys : resolver.keyUnder ambient context ≠ resolver.keyUnder ambient reader)
    (hapart : ∀ shared, registry.Needs feature shared → registry.Needs other shared →
      ∀ group, resolver.GrantedBy membership (resolver.keyUnder ambient context) shared group →
      resolver.keyUnder ambient (.group group) ≠ resolver.keyUnder ambient reader)
    (address : Store.Address)
    (hwrites : (resolver.footprintOf membership registry ambient other reader).writes address) :
    ¬ (resolver.footprintOf membership registry ambient feature context).reads address := by
  obtain ⟨hother, hkey⟩ := hwrites
  rintro ⟨hfeature, hcontext | ⟨group, hgranted, hgroup⟩⟩
  · exact hkeys (hcontext.symm.trans hkey)
  · exact hapart address.feature hfeature hother group hgranted (hgroup.symm.trans hkey)

/-- **Reading for one context does not change the answer for another** with a
different key: a feature comes out the same in a fresh fork, whether or not any
feature was resolved for the other context before. The exception is a group: what
is resolved for it may be inherited by its members, if the group is granted a
feature that both resolutions need. -/
theorem resolve_undisturbed (resolver : Resolver) (groups : Groups) (s : State Rows)
    (hpure : s.world.closures.ArePure) (feature other : String) (context reader : Context)
    (hkeys : resolver.keyUnder s.work.ambient context ≠ resolver.keyUnder s.work.ambient reader)
    (hapart : ∀ shared, s.work.registry.Needs feature shared →
      s.work.registry.Needs other shared → ∀ group, resolver.GrantedBy groups.membership
        (resolver.keyUnder s.work.ambient context) shared group →
      resolver.keyUnder s.work.ambient (.group group)
        ≠ resolver.keyUnder s.work.ambient reader) :
    let read := ((resolver.resolve other reader).perform Store.memory groups.membership s).2
    ∃ value,
      ((resolver.resolve feature context).perform Store.memory groups.membership
          ⟨s.work.fork, s.world⟩).1 = .ok value
        ∧ ((resolver.resolve feature context).perform Store.memory groups.membership
          ⟨read.work.fork, read.world⟩).1 = .ok value := by
  intro read
  obtain ⟨halike, hsettled⟩ := Footprint.alike_perform
    (resolver.maintains_resolve groups.membership s.work.registry s.work.ambient other reader
      s.work () ⟨rfl, rfl⟩)
    (footprintOf_apart hkeys hapart) hpure
  have hfork : read.work.fork = s.work.fork :=
    congrArg₂ Work.start hsettled.registry hsettled.ambient
  obtain ⟨hresult, -⟩ := Footprint.perform_eq
    (resolver.maintains_resolve groups.membership s.work.registry s.work.ambient feature context
      s.work.fork () ⟨rfl, rfl⟩)
    (fun _ hreads => hreads) halike
  obtain ⟨value, t, hperform, -⟩ := resolver.exists_perform_resolve groups.source
    (s := ⟨s.work.fork, s.world⟩) hpure feature context
  have hvalue := congrArg Prod.fst hperform
  refine ⟨value, hvalue, ?_⟩
  rw [hfork]
  exact hresult.symm.trans hvalue

/-- A feature is resolved for a group and then for a member of it. The group is
granted another feature only, so the member does not inherit what was written for
the group. -/
theorem resolve_undisturbed_by_group :
    let groups := (Groups.empty.addMember "beta" "ada").grant "beta" "dark"
    let registry : Registry := ⟨(∅ : Std.ExtTreeMap String Definition).insert "light"
      (.ofRule "light" (.closure ⟨0⟩))⟩
    let resolver : Resolver := ⟨.none, .standard, true, true, none⟩
    let world : World Rows :=
      .start .epoch ∅ ⟨[(.byKind [("group", .bool true)] .null (.bool false), 0)]⟩
    let read := ((resolver.resolve "light" (.group "beta")).perform Store.memory
      groups.membership ⟨.start registry none, world⟩).2
    ∃ value,
      ((resolver.resolve "light" (.scalar "ada")).perform Store.memory groups.membership
          ⟨.start registry none, world⟩).1 = .ok value
        ∧ ((resolver.resolve "light" (.scalar "ada")).perform Store.memory groups.membership
          ⟨read.work.fork, read.world⟩).1 = .ok value := by
  intro groups registry resolver world
  have hpure : world.closures.ArePure :=
    Closures.arePure_singleton (Computation.isPure_byKind _ _ _) 0
  have hneeds : ∀ needed, registry.Needs "light" needed → needed = "light" := by
    intro needed h
    rcases h.cases_head with heq | ⟨required, ⟨definition, hdef, hrequired⟩, -⟩
    · exact heq.symm
    · obtain rfl : definition = .ofRule "light" (.closure ⟨0⟩) := by
        simpa [registry, Registry.get?] using hdef.symm
      cases hrequired
  refine resolve_undisturbed resolver groups ⟨.start registry none, world⟩ hpure "light" "light"
    (.scalar "ada") (.group "beta") (by decide +kernel) fun shared hshared _ group hgranted => ?_
  obtain ⟨-, joined, features, hjoined, hgroup, hfeatures, hfeature⟩ := hgranted
  obtain rfl := hneeds shared hshared
  have hbeta : groups.groupsFor (resolver.keyUnder none (.scalar "ada")) = ["beta"] := by
    decide +kernel
  have hdark : groups.featuresIn "beta" = ["dark"] := by decide +kernel
  obtain rfl : ["beta"] = joined := hbeta ▸ Except.ok.inj hjoined
  obtain rfl := List.mem_singleton.mp hgroup
  obtain rfl : ["dark"] = features := hdark ▸ Except.ok.inj hfeatures
  exact absurd hfeature (by decide)

/-- **A group disturbs its members.** A closure switches a feature on for groups and
off for anybody else. It is off for a member of a group that is granted it – until
somebody resolves it for the group. -/
theorem resolve_disturbed_by_group :
    let groups := (Groups.empty.addMember "beta" "ada").grant "beta" "dark"
    let registry : Registry := ⟨(∅ : Std.ExtTreeMap String Definition).insert "dark"
      (.ofRule "dark" (.closure ⟨0⟩))⟩
    let resolver : Resolver := ⟨.none, .standard, true, true, none⟩
    let world : World Rows :=
      .start .epoch ∅ ⟨[(.byKind [("group", .bool true)] .null (.bool false), 0)]⟩
    let read := ((resolver.resolve "dark" (.group "beta")).perform Store.memory
      groups.membership ⟨.start registry none, world⟩).2
    resolver.keyUnder none (.scalar "ada") ≠ resolver.keyUnder none (.group "beta")
      ∧ ((resolver.resolve "dark" (.scalar "ada")).perform Store.memory groups.membership
          ⟨.start registry none, world⟩).1 = .ok .inactive
      ∧ ((resolver.resolve "dark" (.scalar "ada")).perform Store.memory groups.membership
          ⟨read.work.fork, read.world⟩).1 = .ok .on := by
  decide +kernel

end FeatureGate.Resolver
