import FeatureGate.Cache
import FeatureGate.Config.Basic
import FeatureGate.Event
import FeatureGate.Guard
import FeatureGate.Registry
import FeatureGate.Store.Call

/-!
# Resolvers

A resolver ties definitions, a store and the rest together. What is fixed when
it is built is a `Resolver`; what changes while it works is its `Work`: the
registry, which it shares with other resolvers, its own cache, the ambient
scope, and the frames in flight.

An operation of a resolver is an `Action`: a program that asks the world
outside – the store, the source of group membership, the clock, the closures of
definitions, the listener and the log – and changes the work. An action that
fails keeps the changes it made before it failed; that they are few is a
property of each operation, not of actions as such.
-/

namespace FeatureGate

/-- **What a resolver asks of the world outside.** -/
inductive Request where
  /-- A call of the store. -/
  | store (call : Store.Call)
  /-- The groups a context key belongs to, in the order of precedence. -/
  | groupsFor (key : String)
  /-- The features granted to a group. -/
  | featuresIn (group : String)
  /-- What time it is. -/
  | clock
  /-- What a closure makes of a context. -/
  | compute (closure : Closure) (context : Context)
  /-- To deliver an event. -/
  | deliver (event : Event)
  /-- To write a warning to the log. -/
  | warn (warning : Warning)

/-- The replies to a request. -/
abbrev Request.Reply : Request → Type
  | store call => call.Reply
  | groupsFor _ | featuresIn _ => Except FeatureError (List String)
  | clock => Instant
  | compute .. => Payload
  | deliver _ | warn _ => Unit

/-- **A resolver**: what is fixed once it is built. -/
structure Resolver where
  /-- The aliases of entity kinds. -/
  aliases : Aliases
  /-- The settings. -/
  config : Config
  /-- Whether there is a source of group membership. -/
  consultsGroups : Bool
  /-- Whether there is a listener. -/
  hasListener : Bool
  /-- The context to resolve for when none is given, if there is one. -/
  defaultContext : Option Context

namespace Resolver

/-- The world outside, as a resolver sees it. -/
def interface : Interface := ⟨Request, Request.Reply⟩

/-- **What changes while a resolver works.** -/
structure Work where
  /-- The definitions. -/
  registry : Registry
  /-- The values resolved so far in this unit of work. -/
  cache : Cache
  /-- The scope of contexts without one of their own. -/
  ambient : Option Scope
  /-- The frames in flight; none between two operations. -/
  guard : Guard

/-- A unit of work that begins: nothing is cached or in flight. -/
def Work.start (registry : Registry) (ambient : Option Scope) : Work :=
  ⟨registry, .empty, ambient, .empty⟩

/-- The unit of work of a fork: it shares the registry and starts with the same
ambient scope, and with nothing cached. -/
def Work.fork (work : Work) : Work := .start work.registry work.ambient

/-- **An operation of a resolver.** -/
abbrev Action := ExceptT FeatureError (StateT Work (Program interface))

/-- Run an operation on a unit of work. -/
def Action.program {α : Type} (action : Action α) (work : Work) :
    Program interface (Except FeatureError α × Work) :=
  (ExceptT.run action).run work

/-- Ask the world outside. -/
def ask (request : Request) : Action request.Reply :=
  ExceptT.lift (StateT.lift (Program.request (I := interface) request))

/-- Call the store; its failure is the failure of the operation. -/
def askStore (call : Store.Call) : Action call.Answer := do
  match ← ask (.store call) with
  | .ok answer => return answer
  | .error error => throw (.store error)

/-- What comes out of an operation, failure included; the operation around it
goes on. -/
def attempt {α : Type} (action : Action α) : Action (Except FeatureError α) :=
  ExceptT.lift (ExceptT.run action)

/-- Fail as a computation without effects did. -/
def ofExcept {α : Type} : Except FeatureError α → Action α
  | .ok a => return a
  | .error error => throw error

/-- Change the cache. -/
def modifyCache (f : Cache → Cache) : Action Unit :=
  modify fun work => { work with cache := f work.cache }

/-- **Deliver an event**, if events are delivered and anybody listens. -/
def emit (resolver : Resolver) (event : Event) : Action Unit := do
  if resolver.config.emitEvents && resolver.hasListener then
    ask (.deliver event)

/-- The key of a context under an ambient scope. -/
def keyUnder (resolver : Resolver) (ambient : Option Scope) (context : Context) : String :=
  resolver.aliases.key context ambient

/-- **The key of a context**, under the ambient scope of the moment. -/
def contextKey (resolver : Resolver) (context : Context) : Action String := do
  return resolver.keyUnder (← get).ambient context

end Resolver

end FeatureGate
