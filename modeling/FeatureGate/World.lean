import FeatureGate.Closures
import FeatureGate.Groups
import FeatureGate.Resolver.Basic

/-!
# The world around resolvers

Everything a resolver asks for, with a state: a clock that stands still, a
store, groups, closures, a listener that collects events, and a log that
collects warnings. With it a program of a resolver runs (`World.run`).

Resolvers may share some of it and not the rest, so the store and the groups a
resolver uses are given apart from the state.
-/

namespace FeatureGate

/-- **A source of group membership**; asking it may fail. -/
structure Membership where
  /-- The groups of a context key, in the order of precedence. -/
  groupsFor (key : String) : Except FeatureError (List String)
  /-- The features granted to a group. -/
  featuresIn (group : String) : Except FeatureError (List String)

/-- Groups kept in memory, as a source that does not fail. -/
def Groups.membership (groups : Groups) : Membership where
  groupsFor key := .ok (groups.groupsFor key)
  featuresIn group := .ok (groups.featuresIn group)

namespace Membership

/-- No groups. -/
def none : Membership := Groups.empty.membership

instance : Inhabited Membership := ⟨none⟩

/-- How a source fails, told in words. -/
def failure (method : String) : Except FeatureError (List String) :=
  .error (.store (.backend (method ++ " failed")))

/-- The same source, but asking for the groups of a key fails. -/
def withoutGroups (membership : Membership) : Membership :=
  { membership with groupsFor := fun _ => failure "groups_for" }

/-- The same source, but asking for the features of a group fails. -/
def withoutFeatures (membership : Membership) : Membership :=
  { membership with featuresIn := fun _ => failure "features_in" }

end Membership

/-- **The state of the world**, with a store whose state is of type `σ`. -/
structure World (σ : Type) where
  /-- What time it is. -/
  now : Instant
  /-- The state of the store. -/
  store : σ
  /-- The closures. -/
  closures : Closures
  /-- The events delivered, oldest first. -/
  events : List Event
  /-- The warnings logged, oldest first. -/
  warnings : List Warning

namespace World

variable {σ : Type}

/-- A world in which nothing has happened. -/
def start (now : Instant) (store : σ) (closures : Closures) : World σ :=
  ⟨now, store, closures, [], []⟩

/-- Call a store. -/
def call (store : Store (StateM σ)) (call : Store.Call) : StateM (World σ) call.Reply :=
  fun world =>
    let answered := (store.call call).run world.store
    (answered.1, { world with store := answered.2 })

/-- **Answer a request of a resolver** with a store and groups. -/
def answer (store : Store (StateM σ)) (membership : Membership) :
    (request : Request) → StateM (World σ) request.Reply
  | .store call => World.call store call
  | .groupsFor key => return membership.groupsFor key
  | .featuresIn group => return membership.featuresIn group
  | .clock => return (← get).now
  | .compute closure context => fun world =>
    let called := world.closures.call closure context
    (called.1, { world with closures := called.2 })
  | .deliver event => modify fun world => { world with events := world.events ++ [event] }
  | .warn warning =>
    modify fun world => { world with warnings := world.warnings ++ [warning] }

/-- **Run an operation of a resolver** on a unit of work. -/
def run {α : Type} (store : Store (StateM σ)) (membership : Membership)
    (action : Resolver.Action α) (work : Resolver.Work) :
    StateM (World σ) (Except FeatureError α × Resolver.Work) :=
  (action.program work).interpret (answer store membership)

end World

end FeatureGate
