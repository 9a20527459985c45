import Mathlib.Logic.Relation
import FeatureGate.Proofs.Conduct
import FeatureGate.Proofs.Resolution.Purity
import FeatureGate.Proofs.Store.Footprint

/-!
# What a resolution reads and writes

An operation has a *footprint*: the addresses of the rows it may read, and of
those it may write. That it keeps to a footprint is a protocol
(`Footprint.protocol`), and so is said of its program, whatever the store, the
clock and the closures reply.

In worlds that are alike where an operation reads, it comes out alike
(`Footprint.perform_eq`); and a world in which it ran is alike to the one before
wherever it does not write (`Footprint.alike_perform`).

What a resolution reads and writes is the rows of one context, and it reads those
of the groups of the context for the features granted to them
(`Footprint.Covers`).
-/

namespace FeatureGate

open Store (Rows Address)

/-- **A footprint**: the addresses that may be read, and those that may be
written. -/
structure Footprint where
  /-- The addresses that may be read. -/
  reads : Address → Prop
  /-- The addresses that may be written. -/
  writes : Address → Prop

namespace Footprint

/-- A request that keeps to a footprint. -/
def Permits (footprint : Footprint) : Request → Prop
  | .store call => (∀ address, call.Reads address → footprint.reads address)
      ∧ ∀ address, call.Writes address → footprint.writes address
  | _ => True

/-- A reply that a source of membership may give. -/
def Tells (membership : Membership) : (request : Request) → request.Reply → Prop
  | .groupsFor key, reply => reply = membership.groupsFor key
  | .featuresIn group, reply => reply = membership.featuresIn group
  | _, _ => True

/-- **The protocol of a footprint**: calls of the store keep to it, and replies
about membership are those of a source. Nothing needs to be known. -/
def protocol (footprint : Footprint) (membership : Membership) :
    Protocol Resolver.interface Unit where
  Allows _ request := footprint.Permits request
  Gives _ request reply _ := Tells membership request reply

end Footprint

/-! ## Worlds that are alike somewhere -/

/-- **Worlds that are alike** in some rows: a resolver that reads no others cannot
tell them apart. -/
structure World.Alike (region : Address → Prop) (s t : World Rows) : Prop where
  /-- The rows agree there. -/
  rows : Rows.Agree region s.store t.store
  /-- The clock is the same. -/
  now : s.now = t.now
  /-- The closures of the one are functions of the context. -/
  pure : s.closures.ArePure
  /-- And so are those of the other. -/
  pure' : t.closures.ArePure
  /-- They make the same of a context. -/
  closures : ∀ closure context,
    (s.closures.call closure context).1 = (t.closures.call closure context).1

namespace World.Alike

variable {region : Address → Prop} {s t u : World Rows} {membership : Membership}

theorem refl (h : s.closures.ArePure) : s.Alike region s :=
  ⟨fun _ _ _ => rfl, rfl, h, h, fun _ _ => rfl⟩

theorem symm (h : s.Alike region t) : t.Alike region s :=
  ⟨fun feature key hin => (h.rows feature key hin).symm, h.now.symm, h.pure', h.pure,
    fun closure context => (h.closures closure context).symm⟩

theorem trans (hst : s.Alike region t) (htu : t.Alike region u) : s.Alike region u where
  rows feature key hin := (hst.rows feature key hin).trans (htu.rows feature key hin)
  now := hst.now.trans htu.now
  pure := hst.pure
  pure' := htu.pure'
  closures closure context := (hst.closures closure context).trans (htu.closures closure context)

/-- Calling a closure leaves a world that is alike to the one before. -/
theorem compute (h : s.closures.ArePure) (closure : Closure) (context : Context) :
    s.Alike region { s with closures := (s.closures.call closure context).2 } :=
  ⟨fun _ _ _ => rfl, rfl, h, h.call closure context,
    fun other context' => (h.call_call closure other context context').symm⟩

/-- **Worlds that are alike answer alike** what reads alike rows, and stay
alike. -/
theorem answer (h : s.Alike region t) {request : Request} {footprint : Footprint}
    (hpermits : footprint.Permits request)
    (hreads : ∀ address, footprint.reads address → region address) :
    ((World.answer Store.memory membership request).run s).1
        = ((World.answer Store.memory membership request).run t).1
      ∧ ((World.answer Store.memory membership request).run s).2.Alike region
          ((World.answer Store.memory membership request).run t).2 := by
  cases request with
  | store call =>
    refine ⟨Rows.Agree.answer_eq fun feature key hread => ?_, ?_⟩
    · exact h.rows feature key (hreads _ (hpermits.1 _ hread))
    · exact ⟨h.rows.answer call, h.now, h.pure, h.pure', h.closures⟩
  | groupsFor key => exact ⟨rfl, h⟩
  | featuresIn group => exact ⟨rfl, h⟩
  | clock => exact ⟨h.now, h⟩
  | compute closure context =>
    -- the calls are counted, but no closure here can tell
    exact ⟨h.closures closure context,
      ((compute h.pure closure context).symm.trans h).trans (compute h.pure' closure context)⟩
  | deliver event => exact ⟨rfl, h.rows, h.now, h.pure, h.pure', h.closures⟩
  | warn warning => exact ⟨rfl, h.rows, h.now, h.pure, h.pure', h.closures⟩

/-- **A request leaves a world alike** wherever it does not write. -/
theorem answer_of_not_writes (h : s.closures.ArePure) {request : Request}
    {footprint : Footprint} (hpermits : footprint.Permits request)
    (hwrites : ∀ address, footprint.writes address → ¬ region address) :
    s.Alike region ((World.answer Store.memory membership request).run s).2 := by
  cases request with
  | store call =>
    refine ⟨fun feature key hin => (Rows.get?_answer_of_not_writes fun hwrite => ?_).symm,
      rfl, h, h, fun _ _ => rfl⟩
    exact hwrites _ (hpermits.2 _ hwrite) hin
  | compute closure context => exact compute h closure context
  | deliver event => exact ⟨fun _ _ _ => rfl, rfl, h, h, fun _ _ => rfl⟩
  | warn warning => exact ⟨fun _ _ _ => rfl, rfl, h, h, fun _ _ => rfl⟩
  | groupsFor | featuresIn | clock => exact refl h

end World.Alike

namespace Footprint

variable {footprint : Footprint} {membership : Membership} {region : Address → Prop}

/-- The replies of a world are those of its source. -/
theorem tells_answer (membership : Membership) (request : Request) (s : World Rows) :
    Tells membership request ((World.answer Store.memory membership request).run s).1 := by
  cases request <;> first | rfl | trivial

variable {α : Type} {action : Resolver.Action α} {work : Resolver.Work}
  {expected : Except FeatureError α → Resolver.Work → Unit → Prop}

/-- **An operation comes out alike** in worlds that are alike where it reads. -/
theorem perform_eq (h : action.Yields (footprint.protocol membership) work () expected)
    (hreads : ∀ address, footprint.reads address → region address) {s t : World Rows}
    (hst : s.Alike region t) :
    (action.perform Store.memory membership ⟨work, s⟩).1
        = (action.perform Store.memory membership ⟨work, t⟩).1
      ∧ (action.perform Store.memory membership ⟨work, s⟩).2.work
        = (action.perform Store.memory membership ⟨work, t⟩).2.work
      ∧ (action.perform Store.memory membership ⟨work, s⟩).2.world.Alike region
          (action.perform Store.memory membership ⟨work, t⟩).2.world := by
  have hadmits : (footprint.protocol membership).Admits
      (World.answer Store.memory membership) fun _ _ => True :=
    fun _ s request _ _ => ⟨(), tells_answer membership request s, trivial⟩
  obtain ⟨houtcome, halike⟩ := Program.Follows.run_eq_run hadmits
    (fun _ s t request hpermits hst => hst.answer hpermits hreads) h trivial hst
  exact ⟨(congrArg Prod.fst houtcome :), (congrArg Prod.snd houtcome :), halike⟩

/-- **An operation leaves a world alike** wherever it does not write, and ends as
expected. -/
theorem alike_perform (h : action.Yields (footprint.protocol membership) work () expected)
    (hwrites : ∀ address, footprint.writes address → ¬ region address) {s : World Rows}
    (hpure : s.closures.ArePure) :
    s.Alike region (action.perform Store.memory membership ⟨work, s⟩).2.world
      ∧ expected (action.perform Store.memory membership ⟨work, s⟩).1
          (action.perform Store.memory membership ⟨work, s⟩).2.work () := by
  have hadmits : (footprint.protocol membership).Admits
      (World.answer Store.memory membership) fun _ t => s.Alike region t :=
    fun _ t request halike hpermits => ⟨(), tells_answer membership request t,
      halike.trans (.answer_of_not_writes halike.pure' hpermits hwrites)⟩
  obtain ⟨⟨⟩, hexpected, halike⟩ := Program.Follows.run hadmits h (.refl hpure)
  exact ⟨halike, hexpected⟩

end Footprint

/-! ## The footprint of a resolution -/

/-- **One feature needs another** if it is the same one, or requires it, directly or
through others. -/
def Registry.Needs (registry : Registry) : String → String → Prop :=
  Relation.ReflTransGen fun feature required =>
    ∃ definition, registry.get? feature = some definition ∧ required ∈ definition.required

namespace Resolver

variable {resolver : Resolver} {footprint : Footprint} {membership : Membership}
  {registry : Registry} {ambient : Option Scope} {context : Context} {among : String → Prop}

/-- **A feature is granted to a context key by a group**: groups are consulted, the
key belongs to the group, and the group has the feature. -/
def GrantedBy (resolver : Resolver) (membership : Membership) (key feature group : String) :
    Prop :=
  resolver.consultsGroups = true ∧ ∃ groups features,
    membership.groupsFor key = .ok groups ∧ group ∈ groups
      ∧ membership.featuresIn group = .ok features ∧ feature ∈ features

/-- **A footprint covers a context** for some features, under an ambient scope: the
rows of its key, and those of the groups that grant it the features. -/
structure Covers (resolver : Resolver) (footprint : Footprint) (membership : Membership)
    (ambient : Option Scope) (context : Context) (among : String → Prop) : Prop where
  /-- The rows of the context may be read. -/
  reads {feature : String} :
    among feature → footprint.reads ⟨feature, resolver.keyUnder ambient context⟩
  /-- They may be written. -/
  writes {feature : String} :
    among feature → footprint.writes ⟨feature, resolver.keyUnder ambient context⟩
  /-- The rows of its groups may be read, for the features granted to them. -/
  groups {feature group : String} : among feature →
    resolver.GrantedBy membership (resolver.keyUnder ambient context) feature group →
    footprint.reads ⟨feature, resolver.keyUnder ambient (.group group)⟩

/-- The definitions and the ambient scope of the moment, as an invariant. -/
structure Settled (registry : Registry) (ambient : Option Scope) (work : Work) (_ : Unit) :
    Prop where
  /-- The definitions. -/
  registry : work.registry = registry
  /-- The ambient scope. -/
  ambient : work.ambient = ambient

namespace Settled

open Resolver.Action (Maintains)

theorem tolerant (footprint : Footprint) (membership : Membership) (registry : Registry)
    (ambient : Option Scope) :
    Tolerant (footprint.protocol membership) (Settled registry ambient) where
  guard _ h := ⟨h.registry, h.ambient⟩
  allows {_ _ request} _ haside := by
    cases request <;> first | exact haside.elim | trivial
  gives _ _ h _ _ := h

variable {α : Type}

/-- Whoever asks goes on with what the source of membership tells. -/
theorem ask_bind {request : Request} {next : request.Reply → Action α}
    (hpermits : footprint.Permits request)
    (hnext : ∀ reply, Footprint.Tells membership request reply →
      (next reply).Maintains (footprint.protocol membership) (Settled registry ambient)) :
    (ask request >>= next).Maintains (footprint.protocol membership)
      (Settled registry ambient) :=
  fun work _ h => .ask_bind hpermits fun reply _ htells => hnext reply htells work () h

theorem askStore {call : Store.Call} (hpermits : footprint.Permits (.store call)) :
    (askStore call).Maintains (footprint.protocol membership) (Settled registry ambient) :=
  fun _ _ h => .askStore hpermits fun _ _ _ => h

theorem emit (event : Event) :
    (resolver.emit event).Maintains (footprint.protocol membership)
      (Settled registry ambient) :=
  .emit (tolerant ..) event

theorem modifyCache (f : Cache → Cache) :
    (modifyCache f).Maintains (footprint.protocol membership) (Settled registry ambient) :=
  .modify fun _ _ h => ⟨h.registry, h.ambient⟩

/-- The groups are asked for their rows of a feature if it is granted to them. -/
theorem firstGroupValue {feature : String} {groups : List String}
    (hreads : ∀ group ∈ groups, ∀ features, membership.featuresIn group = .ok features →
      feature ∈ features → footprint.reads ⟨feature, resolver.keyUnder ambient (.group group)⟩) :
    (resolver.firstGroupValue feature groups).Maintains (footprint.protocol membership)
      (Settled registry ambient) := by
  induction groups with
  | nil => exact .pure none
  | cons group rest ih =>
    have hrest := ih fun group hgroup => hreads group (List.mem_cons_of_mem _ hgroup)
    unfold Resolver.firstGroupValue
    refine ask_bind trivial fun reply htells => ?_
    cases reply with
    | error e => exact .throw e
    | ok features =>
      dsimp only
      split
      · rename_i hfeature
        have hpermits : footprint.Permits
            (.store (.get feature (resolver.keyUnder ambient (.group group)))) :=
          ⟨fun _ h => h ▸ hreads group List.mem_cons_self features htells.symm
            (List.contains_iff_mem.mp hfeature), fun _ h => h.elim⟩
        refine fun work _ h => .contextKey_bind ?_
        rw [h.ambient]
        refine Maintains.bind (askStore hpermits) (fun row => ?_) work () h
        cases row with
        | none => exact hrest
        | some payload => exact .ite (.pure _) hrest
      · exact hrest

theorem groupValue (hcovers : resolver.Covers footprint membership ambient context among)
    {feature : String} (hamong : among feature) :
    (resolver.groupValue feature (resolver.keyUnder ambient context)).Maintains
      (footprint.protocol membership) (Settled registry ambient) := by
  unfold Resolver.groupValue
  split
  · rename_i hconsults
    refine ask_bind trivial fun reply htells => ?_
    cases reply with
    | error e => exact .throw e
    | ok groups =>
      exact firstGroupValue fun group hgroup features hfeatures hfeature =>
        hcovers.groups hamong
          ⟨hconsults, groups, features, htells.symm, hgroup, hfeatures, hfeature⟩
  · exact .pure none

/-- **An open feature** keeps to a footprint that covers the context. -/
theorem serves (hcovers : resolver.Covers footprint membership ambient context among)
    {feature : String} (hamong : among feature) :
    Maintains.Serves (footprint.protocol membership) (Settled registry ambient) resolver feature
      (resolver.keyUnder ambient context) where
  get := askStore ⟨fun _ h => h ▸ hcovers.reads hamong, fun _ h => h.elim⟩
  insert _ := askStore ⟨fun _ h => h ▸ hcovers.reads hamong, fun _ h => h ▸ hcovers.writes hamong⟩
  compute _ _ := fun _ _ h => .ask trivial fun _ _ _ => h
  inherit := groupValue hcovers hamong
  keep _ := modifyCache _
  report _ hreport := .aside (tolerant ..) _ hreport.isAside

/-- **Resolving keeps to a footprint** that covers the context, for features with
everything they require. -/
theorem opens (hcovers : resolver.Covers footprint membership ambient context among)
    (hclosed : ∀ feature, among feature → ∀ needed, registry.Needs feature needed → among needed) :
    Maintains.Opens (footprint.protocol membership) (Settled registry ambient) resolver context
      among where
  tolerant := tolerant ..
  required {feature work _ definition} hamong hsettled hdef r hr :=
    hclosed feature hamong r (.single ⟨definition, hsettled.registry ▸ hdef, hr⟩)
  resolveOpen hamong hsettled := by
    rw [hsettled.ambient]
    exact (serves hcovers hamong).resolveOpen context _

end Settled

/-- **The footprint of resolving a feature** for a context: the rows of the context,
for the features needed, and those of the groups that grant it such a feature. -/
def footprintOf (resolver : Resolver) (membership : Membership) (registry : Registry)
    (ambient : Option Scope) (feature : String) (context : Context) : Footprint where
  reads address := registry.Needs feature address.feature ∧
    (address.key = resolver.keyUnder ambient context ∨
      ∃ group, resolver.GrantedBy membership (resolver.keyUnder ambient context)
          address.feature group
        ∧ address.key = resolver.keyUnder ambient (.group group))
  writes address := registry.Needs feature address.feature ∧
    address.key = resolver.keyUnder ambient context

/-- **A resolution keeps to its footprint**, and to the definitions and the ambient
scope there are. -/
theorem maintains_resolve (resolver : Resolver) (membership : Membership)
    (registry : Registry) (ambient : Option Scope) (feature : String) (context : Context) :
    (resolver.resolve feature context).Maintains
      ((resolver.footprintOf membership registry ambient feature context).protocol membership)
      (Settled registry ambient) := by
  have hcovers : resolver.Covers
      (resolver.footprintOf membership registry ambient feature context) membership ambient
      context (registry.Needs feature) :=
    ⟨fun hneeds => ⟨hneeds, .inl rfl⟩, fun hneeds => ⟨hneeds, rfl⟩,
      fun hneeds hgranted => ⟨hneeds, .inr ⟨_, hgranted, rfl⟩⟩⟩
  exact (Settled.opens hcovers fun _ h _ h' => h.trans h').resolve .refl

end Resolver

end FeatureGate
