import FeatureGate.Proofs.Conduct
import FeatureGate.Proofs.Operation

/-!
# Resolvers that take turns

The resolvers of a process share a registry, and whatever else surrounds them: a
store, a source of membership, a clock, closures. Each has a cache and an ambient
scope of its own. A *crew* is a number of such resolvers, of which one after
another takes a turn and does a *task*: an operation as in `Operation`, or one of
the remaining ones.

How requests are answered is left open here; a store in memory is one way, and
closures that keep count of something, or a clock that goes on, are others.
-/

namespace FeatureGate

namespace Resolver

/-- **A task of a resolver.** -/
inductive Task where
  /-- One of the operations of `Operation`. -/
  | operation (op : Operation)
  /-- Load the values that are not cached. -/
  | loadMissing (features : List String) (contexts : List Context)
  /-- Whether a feature is active. -/
  | isActive (feature : String) (context : Context)
  /-- Whether a feature is not active. -/
  | isInactive (feature : String) (context : Context)
  /-- Resolve a feature for the default context. -/
  | resolveDefault (feature : String)
  /-- The names of the defined features. -/
  | defined
  /-- The definitions that expire within some days. -/
  | expiringSoon (days : Int)

namespace Task

/-- What a task answers if it succeeds. -/
abbrev Answer : Task → Type
  | operation op => op.Answer
  | loadMissing .. => Unit
  | isActive .. | isInactive .. => Bool
  | resolveDefault _ => FeatureValue
  | defined => List String
  | expiringSoon _ => List Definition

/-- **What a resolver does** when it is given a task. -/
def action (resolver : Resolver) : (task : Task) → Action task.Answer
  | operation op => op.action resolver
  | loadMissing features contexts => resolver.loadMissing features contexts
  | isActive feature context => resolver.isActive feature context
  | isInactive feature context => resolver.isInactive feature context
  | resolveDefault feature => resolver.resolveDefault feature
  | defined => Resolver.defined
  | expiringSoon days => Resolver.expiringSoon days

/-- **What came of a task**: its answer, or its error. -/
structure Outcome where
  /-- The task. -/
  task : Task
  /-- Its answer, or its error. -/
  result : Except FeatureError task.Answer

end Task

end Resolver

open Resolver (Action Task Work)

/-- **A resolver at work** among others. -/
structure Crew.Member where
  /-- The resolver. -/
  resolver : Resolver
  /-- Its unit of work; the registry in it counts at the time of a task only. -/
  work : Work

/-- **Resolvers that share a registry** and what surrounds them. -/
structure Crew (σ : Type) where
  /-- The definitions that they share. -/
  registry : Registry
  /-- The resolvers. -/
  members : List Crew.Member
  /-- The state of what surrounds them. -/
  state : σ

namespace Crew

/-- **A turn**: a task for the resolver at a position. -/
structure Turn where
  /-- Whose turn it is. -/
  member : Nat
  /-- What is to be done. -/
  task : Task

/-- **A crew that begins**: forks of resolvers, each with an ambient scope, and
nothing cached. -/
def start {σ : Type} (registry : Registry) (members : List (Resolver × Option Scope))
    (state : σ) : Crew σ where
  registry
  members := members.map fun (resolver, ambient) => ⟨resolver, .start registry ambient⟩
  state

variable {σ α β : Type} (answer : (request : Request) → StateM σ request.Reply)

/-- **Run an action of a member** on the definitions that all share. -/
def run (crew : Crew σ) (member : Member) (action : Action α) :
    (Except FeatureError α × Work) × σ :=
  ((action.program { member.work with registry := crew.registry }).interpret
    (I := Resolver.interface) answer).run crew.state

/-- **Take a turn**: what came of it, and the crew after it. Nothing happens if there
is no such resolver. -/
def take (crew : Crew σ) (turn : Turn) : Option Task.Outcome × Crew σ :=
  match crew.members[turn.member]? with
  | none => (none, crew)
  | some member =>
    let ran := crew.run answer member (turn.task.action member.resolver)
    (some ⟨turn.task, ran.1.1⟩,
      ⟨ran.1.2.registry, crew.members.set turn.member { member with work := ran.1.2 }, ran.2⟩)

/-- **The crew after a sequence of turns.** -/
def after (crew : Crew σ) (turns : List Turn) : Crew σ :=
  turns.foldl (fun crew turn => (crew.take answer turn).2) crew

/-- **What came of a sequence of turns**, and who took them. -/
def outcomes : List Turn → Crew σ → List (Nat × Task.Outcome)
  | [], _ => []
  | turn :: rest, crew =>
    ((crew.take answer turn).1.map fun outcome => (turn.member, outcome)).toList
      ++ outcomes rest (crew.take answer turn).2

variable {answer} {crew : Crew σ}

theorem run_congr {member : Member} {action action' : Action α}
    (h : action.program { member.work with registry := crew.registry }
      = action'.program { member.work with registry := crew.registry }) :
    crew.run answer member action = crew.run answer member action' := by
  unfold run
  rw [h]

/-- **What an action of a member yields**, it comes to in a state that answers as the protocol
says, if the state tells what is known. -/
theorem run_of_yields {γ : Type} {protocol : Protocol Resolver.interface γ} {told : σ → γ}
    (hadmits : protocol.Admits answer fun known s => known = told s) {member : Member}
    {action : Action α} {expected : Except FeatureError α → Work → γ → Prop}
    (h : action.Yields protocol { member.work with registry := crew.registry } (told crew.state)
      expected) :
    let ran := crew.run answer member action
    expected ran.1.1 ran.1.2 (told ran.2) :=
  h.run hadmits

/-- Run one action after another: an error ends everything. -/
theorem run_bind (member : Member) (action : Action α) (next : α → Action β) :
    crew.run answer member (action >>= next)
      = match crew.run answer member action with
        | ((.ok a, after), t) =>
          (((next a).program after).interpret (I := Resolver.interface) answer).run t
        | ((.error e, after), t) => ((.error e, after), t) :=
  Action.run_interpret_bind answer ..

theorem after_append (first rest : List Turn) :
    crew.after answer (first ++ rest) = (crew.after answer first).after answer rest :=
  List.foldl_append

theorem take_of_member {turn : Turn} {member : Member}
    (h : crew.members[turn.member]? = some member) :
    crew.take answer turn =
      let ran := crew.run answer member (turn.task.action member.resolver)
      (some ⟨turn.task, ran.1.1⟩, ⟨ran.1.2.registry,
        crew.members.set turn.member { member with work := ran.1.2 }, ran.2⟩) := by
  unfold take
  rw [h]

theorem take_of_none {turn : Turn} (h : crew.members[turn.member]? = none) :
    crew.take answer turn = (none, crew) := by
  unfold take
  rw [h]

theorem outcomes_cons {turn : Turn} {rest : List Turn} {outcome : Option Task.Outcome}
    {later : Crew σ} (h : crew.take answer turn = (outcome, later)) :
    crew.outcomes answer (turn :: rest)
      = (outcome.map fun outcome => (turn.member, outcome)).toList
        ++ later.outcomes answer rest := by
  rw [outcomes, h]

theorem after_cons {turn : Turn} {rest : List Turn} {outcome : Option Task.Outcome}
    {later : Crew σ} (h : crew.take answer turn = (outcome, later)) :
    crew.after answer (turn :: rest) = later.after answer rest := by
  unfold after
  rw [List.foldl_cons, h]

/-- In a world, a turn is a task performed on the definitions that all share. -/
theorem take_world {store : Store (StateM σ)} {membership : Membership} {crew : Crew (World σ)}
    {turn : Turn} {member : Member} (h : crew.members[turn.member]? = some member)
    {result : Except FeatureError turn.task.Answer} {t : Resolver.State σ}
    (hperform : (turn.task.action member.resolver).perform store membership
      ⟨{ member.work with registry := crew.registry }, crew.state⟩ = (result, t)) :
    crew.take (World.answer store membership) turn = (some ⟨turn.task, result⟩,
      ⟨t.work.registry, crew.members.set turn.member { member with work := t.work },
        t.world⟩) := by
  rw [take_of_member h]
  cases hperform
  rfl

end Crew

end FeatureGate
