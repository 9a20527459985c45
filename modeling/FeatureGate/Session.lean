import FeatureGate.Resolver.Build
import FeatureGate.Resolver.Load
import FeatureGate.Resolver.Write
import FeatureGate.Store.Recording
import FeatureGate.Store.Scripted
import FeatureGate.World

/-!
# Sessions

A session is a world with several resolvers in it. They share a registry, a
listener and a log, and a store that notes its calls and fails on request; some
may have a registry or a store of their own. Operations are run one after
another, each by one resolver, and what happened since is reported in between.
-/

namespace FeatureGate

namespace Session

/-- **The stores of a session**: the shared one, and those of single resolvers. -/
structure Stores where
  /-- The shared store, with the calls it noted. -/
  shared : Store.Recorded Store.Script
  /-- The rows of the other stores. -/
  own : List Store.Rows

/-- The shared store, which can list its features or cannot. -/
def sharedStore (listing : Bool) : Store (StateM Stores) :=
  let inner := if listing then Store.scripted else Store.withoutListing Store.scripted
  (Store.recording inner).inside Stores.shared fun stores shared => { stores with shared }

/-- A store of a single resolver. -/
def ownStore (index : Nat) : Store (StateM Stores) :=
  Store.memory.inside (fun stores => (stores.own[index]?).getD ∅) fun stores rows =>
    { stores with own := stores.own.set index rows }

/-- **A resolver of a session**, with what it uses. -/
structure Member where
  /-- The resolver. -/
  resolver : Resolver
  /-- Its store. -/
  store : Store (StateM Stores)
  /-- Which registry it shares. -/
  registry : Nat
  /-- Its groups. -/
  membership : Membership
  /-- Its unit of work; the registry in it counts at the time of an operation
  only. -/
  work : Resolver.Work

/-- How a new resolver is built and what it shares. -/
structure Plan where
  /-- What it is made of. -/
  builder : Builder
  /-- Whether it has a store in memory of its own. -/
  ownStore : Bool
  /-- Whether it has a registry of its own. -/
  ownRegistry : Bool
  /-- Its groups, if it consults any. -/
  membership : Option Membership

/-- **What happened** since the last report. -/
structure Report where
  /-- The events delivered. -/
  events : List Event
  /-- The calls the shared store noted. -/
  calls : List String
  /-- The warnings logged. -/
  warnings : List Warning
  /-- The number of rows of the shared store. -/
  rows : Nat
  /-- The number of values cached by a resolver, if it exists. -/
  cached : Option Nat

end Session

/-- **A session.** -/
structure Session where
  /-- Whether the shared store can list its features. -/
  listing : Bool
  /-- The world. -/
  world : World Session.Stores
  /-- The registries; the first one is shared. -/
  registries : List Registry
  /-- The resolvers. -/
  members : List Session.Member
  /-- How many of the events have been reported. -/
  reported : Nat

namespace Session

/-- A session in which nothing has happened, with some rows in the shared
store. -/
def start (now : Instant) (listing : Bool) (rows : Store.Rows) : Session where
  listing
  world := .start now ⟨⟨[], ⟨rows, [], []⟩⟩, []⟩ .empty
  registries := [.empty]
  members := []
  reported := 0

/-- A registry. -/
def registry (session : Session) (index : Nat) : Registry :=
  (session.registries[index]?).getD .empty

/-- Put a registry in the place of another. -/
def setRegistry (session : Session) (index : Nat) (registry : Registry) : Session :=
  { session with registries := session.registries.set index registry }

/-- The script of the shared store. -/
def script (session : Session) : Store.Script := session.world.store.shared.inner

/-- Change the script of the shared store. -/
def modifyScript (session : Session) (f : Store.Script → Store.Script) : Session :=
  { session with world.store.shared.inner := f session.script }

/-- Run an operation on a unit of work that uses a registry. -/
def run {α : Type} (session : Session) (store : Store (StateM Stores))
    (membership : Membership) (registry : Nat) (work : Resolver.Work)
    (action : Resolver.Action α) : (Except FeatureError α × Resolver.Work) × Session :=
  let work := { work with registry := session.registry registry }
  let (outcome, world) := (World.run store membership action work).run session.world
  (outcome, { session with world }.setRegistry registry outcome.2.registry)

/-- **Let a resolver do something**; nothing happens if there is no such
resolver. -/
def act {α : Type} (session : Session) (index : Nat)
    (action : Resolver → Resolver.Action α) : Option (Except FeatureError α × Session) := do
  let member ← session.members[index]?
  let ((result, work), session) := session.run member.store member.membership
    member.registry member.work (action member.resolver)
  return (result, { session with
    members := session.members.set index { member with work } })

/-- **Build a resolver**: its position. What it shares stays changed if the
building fails. -/
def build (session : Session) (plan : Plan) : Except FeatureError Nat × Session :=
  let registry := if plan.ownRegistry then session.registries.length else 0
  let session := if plan.ownRegistry then
    { session with registries := session.registries ++ [.empty] } else session
  let own := session.world.store.own
  let store := if plan.ownStore then Session.ownStore own.length
    else sharedStore session.listing
  let session := if plan.ownStore then
    { session with world.store.own := own ++ [∅] } else session
  let membership := plan.membership.getD .none
  let builder := { plan.builder with consultsGroups := plan.membership.isSome }
  match session.run store membership registry (.start .empty builder.ambient)
    builder.build with
  | ((.ok resolver, work), session) =>
    (.ok session.members.length, { session with
      members := session.members ++ [⟨resolver, store, registry, membership, work⟩] })
  | ((.error error, _), session) => (.error error, session)

/-- **Fork a resolver**: the position of the fork. -/
def fork (session : Session) (index : Nat) : Option (Nat × Session) := do
  let member ← session.members[index]?
  return (session.members.length, { session with
    members := session.members ++ [{ member with work := member.work.fork }] })

/-- Call the store of a resolver. -/
def callStore (session : Session) (index : Nat) (call : Store.Call) :
    Option (call.Reply × Session) := do
  let member ← session.members[index]?
  let (reply, world) := (World.call member.store call).run session.world
  return (reply, { session with world })

/-- Forget the events kept so far. -/
def clearEvents (session : Session) : Session :=
  { session with world.events := [], reported := 0 }

/-- **Report what happened**, with the size of the cache of a resolver. -/
def report (session : Session) (index : Nat) : Report × Session :=
  let world := session.world
  ({ events := world.events.drop session.reported
     calls := world.store.shared.calls
     warnings := world.warnings
     rows := session.script.rows.size
     cached := (session.members[index]?).map (·.work.cache.size) },
   { session with
     reported := world.events.length
     world.warnings := []
     world.store.shared.calls := [] })

end Session

end FeatureGate
