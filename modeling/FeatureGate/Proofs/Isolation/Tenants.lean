import FeatureGate.Proofs.Context.Separation
import FeatureGate.Proofs.Crew
import FeatureGate.Proofs.Resolution.Footprint
import FeatureGate.Proofs.Writes

/-!
# Tenants are isolated from one another

Two forks of a resolver share everything but the ambient scope. As long as they are
used for contexts without a scope of their own, each of them reads and writes rows
under keys of its own scope only – those of the contexts and of their groups, in
every operation and in every resolution of a feature that is required. Keys of
different scopes are different, so neither fork can find out what the other does.
-/

namespace FeatureGate

open Store (Rows Address)

namespace Resolver

/-! ## The footprint of a task -/

/-- **A task for contexts of some sort**: if it reads or writes rows, then those of
such contexts. -/
def Task.IsFor (sort : Context → Prop) : Task → Prop
  | .operation (.set _ context _) | .operation (.activate _ context)
  | .operation (.deactivate _ context) | .operation (.delete _ context)
  | .operation (.resolve _ context) | .operation (.resolveVariant _ context)
  | .operation (.values _ context) | .operation (.all context)
  | .operation (.allAreActive _ context) | .operation (.someAreActive _ context)
  | .isActive _ context | .isInactive _ context => sort context
  | .operation (.activateForGroup _ group) => sort (.group group)
  | .operation (.load _ contexts) | .loadMissing _ contexts =>
    ∀ context ∈ contexts, sort context
  | .operation .flushCache | .defined | .expiringSoon _ => True
  | _ => False

namespace Settled

open Resolver.Action (Maintains)

variable {resolver : Resolver} {footprint : Footprint} {membership : Membership}
  {registry : Registry} {ambient : Option Scope} {context : Context} {feature : String}

theorem overwrite {call : Store.Call} (hpermits : footprint.Permits (.store call))
    (change : Cache → Cache) (event : Event) :
    (resolver.overwrite call change event).Maintains (footprint.protocol membership)
      (Settled registry ambient) :=
  .bind (askStore hpermits) fun _ => .bind (modifyCache change) fun _ => emit event

theorem set (hwrites : footprint.writes ⟨feature, resolver.keyUnder ambient context⟩)
    (value : Payload) :
    (resolver.set feature context value).Maintains (footprint.protocol membership)
      (Settled registry ambient) := by
  intro work _ h
  rw [set_eq_overwrite]
  refine .contextKey_bind ?_
  rw [h.ambient]
  refine overwrite ?_ _ _ work () h
  exact ⟨fun _ h => h.elim, fun _ h => h ▸ hwrites⟩

theorem delete (hwrites : footprint.writes ⟨feature, resolver.keyUnder ambient context⟩) :
    (resolver.delete feature context).Maintains (footprint.protocol membership)
      (Settled registry ambient) := by
  intro work _ h
  rw [delete_eq_overwrite]
  refine .contextKey_bind ?_
  rw [h.ambient]
  refine overwrite ?_ _ _ work () h
  exact ⟨fun _ h => h.elim, fun _ h => h ▸ hwrites⟩

theorem loadWith {contexts : List Context}
    (hcovers : ∀ context ∈ contexts,
      resolver.Covers footprint membership ambient context fun _ => True)
    (skipCached : Bool) (features : List String) :
    (resolver.loadWith skipCached features contexts).Maintains (footprint.protocol membership)
      (Settled registry ambient) := by
  refine .loadWith fun work _ h pairs hpairs => ?_
  rw [h.ambient] at hpairs
  have hread : footprint.Permits
      (.store (.getMany (pairs.map fun pair => (pair.1, pair.2.2)))) := by
    refine ⟨fun address haddress => ?_, fun _ h => h.elim⟩
    obtain ⟨⟨feature, pair⟩, hpair, heq⟩ := List.mem_map.mp haddress
    obtain ⟨context, hcontext, rfl⟩ := hpairs _ hpair
    obtain rfl : feature = address.feature := congrArg Prod.fst heq
    have hkey : resolver.keyUnder ambient context = address.key := congrArg Prod.snd heq
    have hreads : footprint.reads ⟨address.feature, resolver.keyUnder ambient context⟩ :=
      (hcovers context hcontext).reads trivial
    rwa [hkey] at hreads
  refine Maintains.bind (askStore hread) (fun stored => .forM fun entry hentry => ?_) work () h
  obtain ⟨⟨feature, pair⟩, payload⟩ := entry
  obtain ⟨context, hcontext, rfl⟩ := hpairs (feature, pair) (List.of_mem_zip hentry).1
  exact .settle (fun _ _ => modifyCache _) (modifyCache _)
    ((opens (hcovers context hcontext) fun _ _ _ _ => trivial).resolve trivial)

end Settled

/-- **A task keeps to a footprint** that covers the contexts it is for. -/
theorem Task.maintains {resolver : Resolver} {footprint : Footprint} {membership : Membership}
    {registry : Registry} {ambient : Option Scope} {sort : Context → Prop}
    (hcovers : ∀ context, sort context →
      resolver.Covers footprint membership ambient context fun _ => True)
    {task : Task} (h : task.IsFor sort) :
    (task.action resolver).Maintains (footprint.protocol membership)
      (Settled registry ambient) := by
  have hresolve : ∀ {context : Context}, sort context → ∀ feature,
      (resolver.resolve feature context).Maintains (footprint.protocol membership)
        (Settled registry ambient) := fun hsort _ =>
    (Settled.opens (hcovers _ hsort) fun _ _ _ _ => trivial).resolve trivial
  have hwrites : ∀ {context : Context}, sort context → ∀ feature,
      footprint.writes ⟨feature, resolver.keyUnder ambient context⟩ :=
    fun hsort _ => (hcovers _ hsort).writes trivial
  cases task with
  | operation op =>
    cases op with
    | set | activate | deactivate | activateForGroup => exact Settled.set (hwrites h _) _
    | delete => exact Settled.delete (hwrites h _)
    | resolve => exact hresolve h _
    | resolveVariant => exact .resolveVariant (hresolve h _)
    | values => exact .values (hresolve h) _
    | all => exact .all (hresolve h)
    | allAreActive => exact .allAreActive (hresolve h) _
    | someAreActive => exact .someAreActive (hresolve h) _
    | load =>
      exact Settled.loadWith (fun context hcontext => hcovers context (h context hcontext)) _ _
    | flushCache => exact Settled.modifyCache fun _ => .empty
    | _ => exact h.elim
  | loadMissing =>
    exact Settled.loadWith (fun context hcontext => hcovers context (h context hcontext)) _ _
  | isActive => exact .isActive (hresolve h _)
  | isInactive => exact .isInactive (hresolve h _)
  | defined => exact .get_bind fun _ _ _ => .pure _
  | expiringSoon =>
    exact .bind (.aside (Settled.tolerant ..) .clock trivial) fun _ =>
      .get_bind fun _ _ _ => .pure _
  | resolveDefault => exact h.elim

/-! ## Keys of different scopes -/

/-- **The addresses under an ambient scope**: those whose key is that of a context
without a scope of its own. -/
def addressesUnder (resolver : Resolver) (ambient : Option Scope) (address : Address) : Prop :=
  ∃ context : Context, context.scope = none ∧ address.key = resolver.keyUnder ambient context

/-- **Scopes that differ have no address in common**, whatever the identities and the
aliases of entity kinds are. -/
theorem addressesUnder_apart (resolver : Resolver) {a b : Option Scope}
    (ha : ∀ scope ∈ a, scope.Integral) (hb : ∀ scope ∈ b, scope.Integral)
    (hapart : ¬ Option.Rel Scope.Alike a b) (address : Address)
    (h : resolver.addressesUnder a address) : ¬ resolver.addressesUnder b address := by
  obtain ⟨context, hcontext, hkey⟩ := h
  rintro ⟨other, hother, hkey'⟩
  have hsame : resolver.aliases.key context a = resolver.aliases.key other b :=
    hkey.symm.trans hkey'
  rw [Aliases.key_eq_iff_identityKey_eq resolver.aliases (by rwa [hcontext, Option.none_or])
    (by rwa [hother, Option.none_or]), hcontext, hother, Option.none_or, Option.none_or] at hsame
  exact hapart hsame.2

/-- **The footprint of a tenant**: the addresses under its scope. -/
def tenancy (resolver : Resolver) (ambient : Option Scope) : Footprint :=
  ⟨resolver.addressesUnder ambient, resolver.addressesUnder ambient⟩

/-- It covers every context without a scope of its own: groups have none either. -/
theorem covers_tenancy (resolver : Resolver) (membership : Membership) (ambient : Option Scope)
    (context : Context) (h : context.scope = none) :
    resolver.Covers (resolver.tenancy ambient) membership ambient context fun _ => True where
  reads _ := ⟨context, h, rfl⟩
  writes _ := ⟨context, h, rfl⟩
  groups {_ group} _ _ := ⟨.group group, rfl, rfl⟩

theorem Task.maintains_tenancy (resolver : Resolver) (membership : Membership)
    (registry : Registry) (ambient : Option Scope) {task : Task} (h : task.IsFor (·.scope = none)) :
    (task.action resolver).Maintains ((resolver.tenancy ambient).protocol membership)
      (Settled registry ambient) :=
  task.maintains (resolver.covers_tenancy membership ambient) h

end Resolver

/-! ## Two tenants -/

open Resolver (Task Work Settled)

/-- **Two tenants**: forks of one resolver, at some point of their work. -/
def Crew.tenants (resolver : Resolver) (registry : Registry) (first second : Work)
    (world : World Rows) : Crew (World Rows) :=
  ⟨registry, [⟨resolver, first⟩, ⟨resolver, second⟩], world⟩

namespace Crew

variable {resolver : Resolver} {a b : Option Scope} {first first' second : Work}
  {world other : World Rows} {task : Task} (membership : Membership) (registry : Registry)

/-- What the first tenant does leaves the second one, and everything under the scope
of the second one, as they are. -/
theorem tenants_take_first (second : Work) (hapart : ∀ address, resolver.addressesUnder a address →
      ¬ resolver.addressesUnder b address)
    (hfirst : first.ambient = a) (hpure : world.closures.ArePure)
    (htask : task.IsFor (·.scope = none)) :
    ∃ outcome after later,
      (tenants resolver registry first second world).take
          (World.answer Store.memory membership) ⟨0, task⟩
        = (some outcome, tenants resolver registry after second later)
      ∧ after.ambient = a ∧ world.Alike (resolver.addressesUnder b) later := by
  obtain ⟨halike, hsettled⟩ := Footprint.alike_perform
    (task.maintains_tenancy resolver membership registry a htask { first with registry } ()
      ⟨rfl, hfirst⟩) hapart hpure
  generalize hperform : (task.action resolver).perform Store.memory membership
    ⟨{ first with registry }, world⟩ = performed at halike hsettled
  obtain ⟨result, t⟩ := performed
  refine ⟨⟨task, result⟩, t.work, t.world, ?_, hsettled.ambient, halike⟩
  have hmember : (tenants resolver registry first second world).members[0]?
      = some ⟨resolver, first⟩ := rfl
  rw [take_world hmember hperform, hsettled.registry]
  rfl

/-- What the second tenant does comes out the same, if nothing differs under its
scope. -/
theorem tenants_take_second (first first' : Work) (hsecond : second.ambient = b)
    (hworlds : world.Alike (resolver.addressesUnder b) other)
    (htask : task.IsFor (·.scope = none)) :
    ∃ outcome after later later',
      (tenants resolver registry first second world).take
          (World.answer Store.memory membership) ⟨1, task⟩
        = (some outcome, tenants resolver registry first after later)
      ∧ (tenants resolver registry first' second other).take
          (World.answer Store.memory membership) ⟨1, task⟩
        = (some outcome, tenants resolver registry first' after later')
      ∧ after.ambient = b ∧ later.Alike (resolver.addressesUnder b) later' := by
  have hkeeps := task.maintains_tenancy resolver membership registry b htask
    { second with registry } () ⟨rfl, hsecond⟩
  obtain ⟨hresult, hwork, halike⟩ := Footprint.perform_eq hkeeps (fun _ h => h) hworlds
  obtain ⟨-, hsettled⟩ := Footprint.alike_perform hkeeps (fun _ _ => not_false) hworlds.pure
  generalize hperform : (task.action resolver).perform Store.memory membership
    ⟨{ second with registry }, world⟩ = performed at hresult hwork halike hsettled
  generalize hperform' : (task.action resolver).perform Store.memory membership
    ⟨{ second with registry }, other⟩ = performed' at hresult hwork halike
  obtain ⟨result, t⟩ := performed
  obtain ⟨result', t'⟩ := performed'
  refine ⟨⟨task, result⟩, t.work, t.world, t'.world, ?_, ?_, hsettled.ambient, halike⟩
  · have hmember : (tenants resolver registry first second world).members[1]?
        = some ⟨resolver, second⟩ := rfl
    rw [take_world hmember hperform, hsettled.registry]
    rfl
  · have hmember : (tenants resolver registry first' second other).members[1]?
        = some ⟨resolver, second⟩ := rfl
    rw [take_world hmember hperform', ← hwork, hsettled.registry,
      ← show result = result' from hresult]
    rfl

/-- **Leaving out the first tenant** changes nothing for the second one. -/
theorem tenants_without_first (first' : Work) (hapart : ∀ address,
      resolver.addressesUnder a address → ¬ resolver.addressesUnder b address)
    {turns : List Turn} (hturns : ∀ turn ∈ turns, turn.task.IsFor (·.scope = none))
    (hfirst : first.ambient = a) (hsecond : second.ambient = b)
    (hworlds : world.Alike (resolver.addressesUnder b) other) :
    ((tenants resolver registry first second world).outcomes
          (World.answer Store.memory membership) turns).filter (·.1 = 1)
        = (tenants resolver registry first' second other).outcomes
          (World.answer Store.memory membership) (turns.filter (·.member ≠ 0))
      ∧ ((tenants resolver registry first second world).after
          (World.answer Store.memory membership) turns).state.Alike (resolver.addressesUnder b)
        ((tenants resolver registry first' second other).after
          (World.answer Store.memory membership) (turns.filter (·.member ≠ 0))).state := by
  -- on the turns: the first tenants may differ, but each keeps to the same scope, and the
  -- worlds stay alike under that of the second
  induction turns generalizing first second world other with
  | nil => exact ⟨rfl, hworlds⟩
  | cons turn rest ih =>
    obtain ⟨htask, hrest⟩ := List.forall_mem_cons.mp hturns
    obtain ⟨member, task⟩ := turn
    match member with
    | 0 =>
      obtain ⟨outcome, after, later, htake, hafter, hlater⟩ :=
        tenants_take_first membership registry second hapart hfirst hworlds.pure htask
      rw [outcomes_cons htake, after_cons htake]
      exact ih hrest hafter hsecond (hlater.symm.trans hworlds)
    | 1 =>
      obtain ⟨outcome, after, later, later', htake, htake', hafter, hlater⟩ :=
        tenants_take_second membership registry first first' hsecond hworlds htask
      obtain ⟨houtcomes, hworlds'⟩ := ih hrest hfirst hafter hlater
      rw [List.filter_cons_of_pos (by simp), outcomes_cons htake, after_cons htake,
        outcomes_cons htake', after_cons htake']
      exact ⟨congrArg (List.cons _) houtcomes, hworlds'⟩
    | position + 2 =>
      -- there is nobody at such a position
      have htake : ∀ first world, (tenants resolver registry first second world).take
          (World.answer Store.memory membership) ⟨position + 2, task⟩
            = (none, tenants resolver registry first second world) :=
        fun _ _ => take_of_none rfl
      rw [List.filter_cons_of_pos (by simp), outcomes_cons (htake ..), after_cons (htake ..),
        outcomes_cons (htake ..), after_cons (htake ..)]
      exact ih hrest hfirst hsecond hworlds

end Crew

/-- **Tenants are isolated.** Two forks of a resolver, with ambient scopes that differ
in presence, kind or a constraint that counts, take turns at tasks for contexts
without a scope of their own. Whatever the definitions, the aliases, the rows and the
source of membership are: the second fork is told the same as if the first one had
done nothing, and so are the rows under every key that the second one can make. -/
theorem Crew.tenants_isolated (resolver : Resolver) (membership : Membership)
    (registry : Registry) (a b : Option Scope) (world : World Rows) (turns : List Crew.Turn)
    (ha : ∀ scope ∈ a, scope.Integral) (hb : ∀ scope ∈ b, scope.Integral)
    (hapart : ¬ Option.Rel Scope.Alike a b) (hpure : world.closures.ArePure)
    (hturns : ∀ turn ∈ turns, turn.task.IsFor (·.scope = none)) :
    let answer := World.answer Store.memory membership
    let forks := Crew.start registry [(resolver, a), (resolver, b)] world
    let without := turns.filter (·.member ≠ 0)
    (forks.outcomes answer turns).filter (·.1 = 1) = forks.outcomes answer without
      ∧ ∀ (context : Context), context.scope = none → ∀ feature,
          (forks.after answer turns).state.store.get? feature (resolver.keyUnder b context)
            = (forks.after answer without).state.store.get? feature
                (resolver.keyUnder b context) := by
  intro answer forks without
  have hfirst : (Work.start registry a).ambient = a := rfl
  have hsecond : (Work.start registry b).ambient = b := rfl
  obtain ⟨houtcomes, hworlds⟩ := Crew.tenants_without_first membership registry
    (.start registry a) (resolver.addressesUnder_apart ha hb hapart) hturns hfirst hsecond
    (.refl hpure)
  exact ⟨houtcomes, fun context hscope feature =>
    hworlds.rows feature (resolver.keyUnder b context) ⟨context, hscope, rfl⟩⟩

/-- The tenants `1` and `2` use the same features for the same users. The first one
switches a feature on for a group and off for a member of it, deletes a value and
loads others; the second one is told nothing of it. -/
theorem Crew.tenants_isolated_group :
    let tenant (id : String) := (Scope.ofKind "tenant").constrain "id" (.string id)
    let groups := (Groups.empty.addMember "beta" "ada").grant "beta" "dark"
    let registry : Registry := ⟨(∅ : Std.ExtTreeMap String Definition).insert "dark"
      (.ofRule "dark" (.closure ⟨0⟩))⟩
    let resolver : Resolver := ⟨.none, .standard, true, true, none⟩
    let world : World Rows := .start .epoch ∅ ⟨[(.echo, 0)]⟩
    let forks := Crew.start registry
      [(resolver, some (tenant "1")), (resolver, some (tenant "2"))] world
    let turns : List Crew.Turn := [⟨0, .operation (.activateForGroup "dark" "beta")⟩,
      ⟨1, .operation (.resolve "dark" (.scalar "ada"))⟩,
      ⟨0, .operation (.set "dark" (.scalar "ada") .null)⟩,
      ⟨1, .operation (.all (.group "beta"))⟩,
      ⟨0, .operation (.delete "dark" (.group "beta"))⟩,
      ⟨0, .loadMissing ["dark"] [.scalar "ada", .null]⟩,
      ⟨1, .isActive "dark" (.scalar "ada")⟩]
    let answer := World.answer Store.memory groups.membership
    let without := turns.filter (·.member ≠ 0)
    (forks.outcomes answer turns).filter (·.1 = 1) = forks.outcomes answer without
      ∧ ∀ (context : Context), context.scope = none → ∀ feature,
          (forks.after answer turns).state.store.get? feature
              (resolver.keyUnder (some (tenant "2")) context)
            = (forks.after answer without).state.store.get? feature
                (resolver.keyUnder (some (tenant "2")) context) := by
  intro tenant groups registry resolver world forks turns
  have hintegral : ∀ id, ∀ scope ∈ some (tenant id), scope.Integral := by
    rintro id _ ⟨⟩
    exact (Scope.integral_ofKind _).constrain _ rfl
  have hapart : ¬ Option.Rel Scope.Alike (some (tenant "1")) (some (tenant "2")) := by
    intro h
    have hid := ((Option.rel_some_some.mp h).constraints "id" (.string "1") (by simp)).mp
      (by simp [tenant, Scope.constrain])
    simp [tenant, Scope.constrain] at hid
  have hturns : ∀ turn ∈ turns, turn.task.IsFor (·.scope = none) := by
    simp [turns, Task.IsFor, Context.scalar, Context.group, Context.entity, Context.null]
  subst forks
  exact tenants_isolated resolver groups.membership registry (some (tenant "1"))
    (some (tenant "2")) world turns (hintegral "1") (hintegral "2") hapart
    (Closures.arePure_singleton Computation.isPure_echo 0) hturns

end FeatureGate
