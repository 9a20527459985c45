import FeatureGate.Proofs.Nesting.Gate
import FeatureGate.Proofs.Watching

/-!
# Resolution, watched

Which calls are in progress, and which frames are in flight, does not show in what a
resolution asks. Here it is written once more with marks where a call begins, where it
ends, and where the frames in flight have changed.

Each definition is its namesake with marks set in it, going through the same steps from
a unit of work on, and without the marks it is its namesake: that is what the theorems
say, up to `Watched.unwatched_resolveNested`.
-/

namespace FeatureGate.Resolver

/-- **What is marked in a resolution**, with the frames that are in flight then. -/
inductive Mark where
  /-- A call for a feature begins. -/
  | begins (feature : String) (frames : List String)
  /-- A call for a feature ends, in whatever way. -/
  | ends (feature : String) (frames : List String)
  /-- The frames in flight have become others. -/
  | moves (frames : List String)

/-- A program with marks. -/
abbrev Watched := Program (interface.watched Mark)

/-- What an operation ends with: a value or an error, and the unit of work. -/
abbrev Outcome (α : Type) := Except FeatureError α × Work

/-- How features are resolved: the call for a feature, from a unit of work on. -/
abbrev Calls := String → Work → Watched (Outcome FeatureValue)

namespace Watched

/-- Whether all features listed are active. -/
def allOpen (again : Calls) : List String → Work → Watched (Outcome Bool)
  | [], work => return (.ok true, work)
  | required :: rest, work => do
    match ← again required work with
    | (.ok value, after) =>
      if value.isActive then allOpen again rest after else return (.ok false, after)
    | (.error e, after) => return (.error e, after)

/-- **Whether a defined feature may be active at all**, with a mark where its frame is
put in flight, and one where it is taken off. -/
def gateOpen (resolver : Resolver) (again : Calls)
    (definition : Definition) (feature key : String) (work : Work) : Watched (Outcome Bool) :=
  .ask (.inl .clock) fun (now : Instant) =>
    if definition.isExpiredAt now then .done (.ok false, work)
    else if definition.required.isEmpty then .done (.ok true, work)
    else match work.guard.enter? (Guard.frame feature key) with
      | some inside => do
        .mark (.moves inside.frames)
        let (outcome, after) ← allOpen again definition.required { work with guard := inside }
        .mark (.moves after.guard.leave.frames)
        return (outcome, { after with guard := after.guard.leave })
      | none => ((resolver.reportCycle feature key).program work).watched

/-- What is done once it is known whether the gate is open. -/
def conclude (resolver : Resolver) (feature : String) (context : Context) (key : String)
    (definition : Option Definition) : Outcome Bool → Watched (Outcome FeatureValue)
  | (.ok true, work) =>
    ((resolver.resolveOpen feature context key definition).program work).watched
  | (.ok false, work) => return (.ok .inactive, work)
  | (.error e, work) => return (.error e, work)

/-- What there is of a call between its marks. -/
def body (resolver : Resolver) (again : Calls)
    (feature : String) (context : Context) (work : Work) : Watched (Outcome FeatureValue) :=
  let key := resolver.keyUnder work.ambient context
  match work.registry.get? feature with
  | none => conclude resolver feature context key none (.ok true, work)
  | some definition => do
    let outcome ← gateOpen resolver again definition feature key work
    conclude resolver feature context key (some definition) outcome

/-- **Resolve a feature**, given how to resolve the features it requires, with a mark
where the call begins, and one where it ends. -/
def resolveStep (resolver : Resolver) (again : Calls)
    (feature : String) (context : Context) (work : Work) : Watched (Outcome FeatureValue) := do
  .mark (.begins feature work.guard.frames)
  let outcome ← body resolver again feature context work
  .mark (.ends feature outcome.2.guard.frames)
  return outcome

/-- **Resolution nested** at most `depth` calls deep, above a floor. -/
def resolveNested (resolver : Resolver) (floor : String → Context → Action FeatureValue)
    (context : Context) : (depth : Nat) → Calls
  | 0, feature, work => ((floor feature context).program work).watched
  | depth + 1, feature, work =>
    resolveStep resolver (resolveNested resolver floor context depth) feature context work

/-! ## Without the marks -/

section Unwatched

variable {resolver : Resolver} {context : Context} {again : Calls}
  {again' : String → Context → Action FeatureValue}
  (hagain : ∀ required work,
    (again required work).unwatched = (again' required context).program work)
include hagain

theorem unwatched_allOpen (required : List String) (work : Work) :
    (allOpen again required work).unwatched
      = (Resolver.allOpen again' context required).program work := by
  induction required generalizing work with
  | nil => rfl
  | cons r rest ih =>
    rw [allOpen, Resolver.allOpen, Program.unwatched_bind, Action.program_bind, hagain]
    refine congrArg _ (funext fun outcome => ?_)
    obtain ⟨result, after⟩ := outcome
    cases result with
    | error e => rfl
    | ok value =>
      by_cases hactive : value.isActive
      · simp only [hactive, if_true]
        exact ih after
      · simp only [hactive]
        rfl

theorem unwatched_gateOpen (definition : Definition) (feature key : String) (work : Work) :
    (gateOpen resolver again definition feature key work).unwatched
      = (resolver.gateOpen again' definition feature context key).program work := by
  rw [Action.program_gateOpen, gateOpen]
  refine congrArg (Program.ask (I := interface) Request.clock) (funext fun (now : Instant) => ?_)
  dsimp only
  by_cases hexpired : definition.isExpiredAt now
  · rw [if_pos hexpired, if_pos hexpired]
    rfl
  by_cases hrequired : definition.required.isEmpty
  · rw [if_neg hexpired, if_neg hexpired, if_pos hrequired, if_pos hrequired]
    rfl
  rw [if_neg hexpired, if_neg hexpired, if_neg hrequired, if_neg hrequired]
  cases work.guard.enter? (Guard.frame feature key) with
  | none => exact Program.unwatched_watched _
  | some inside =>
    dsimp only
    rw [Program.unwatched_mark_bind, Program.unwatched_bind, unwatched_allOpen hagain]
    rfl

theorem unwatched_resolveStep (feature : String) (work : Work) :
    (resolveStep resolver again feature context work).unwatched
      = (resolver.resolveStep again' feature context).program work := by
  rw [Action.program_resolveStep, resolveStep, Program.unwatched_mark_bind, Program.unwatched_bind]
  refine (bind_pure _).trans ?_
  unfold body
  dsimp only
  cases work.registry.get? feature with
  | none => exact Program.unwatched_watched _
  | some definition =>
    refine (Program.unwatched_bind _ _).trans ?_
    rw [unwatched_gateOpen hagain]
    refine congrArg _ (funext fun outcome => ?_)
    obtain ⟨isOpen, after⟩ := outcome
    cases isOpen with
    | error e => rfl
    | ok isOpen =>
      cases isOpen with
      | false => rfl
      | true => exact Program.unwatched_watched _

end Unwatched

/-- **Nested calls without their marks** are nested calls. -/
theorem unwatched_resolveNested (resolver : Resolver)
    (floor : String → Context → Action FeatureValue) (context : Context) (depth : Nat)
    (feature : String) (work : Work) :
    (resolveNested resolver floor context depth feature work).unwatched
      = (resolver.resolveNested floor depth feature context).program work := by
  induction depth generalizing feature work with
  | zero => exact Program.unwatched_watched _
  | succ depth ih => exact unwatched_resolveStep ih feature work

end Watched

end FeatureGate.Resolver
