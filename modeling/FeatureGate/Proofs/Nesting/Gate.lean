import FeatureGate.Proofs.Running
import FeatureGate.Resolver.Resolve

/-!
# The program of a resolution step

What one step of a resolution asks and does from a unit of work on, as a program, with
the frames it puts in flight and takes off again in plain sight.
-/

namespace FeatureGate.Resolver

/-- **What is done about a frame that is met again**: it is reported, and closes the
gate. -/
def reportCycle (resolver : Resolver) (feature key : String) : Action Bool := do
  ask (.warn (.dependencyCycle feature key))
  resolver.emit (.cycleDetected feature (← get).guard.frames)
  return false

namespace Action

variable {α : Type}

theorem program_ask_bind (request : Request) (next : request.Reply → Action α) (work : Work) :
    (ask request >>= next).program work
      = Program.ask (I := interface) request fun reply => (next reply).program work := rfl

theorem program_ite {c : Prop} [Decidable c] (first second : Action α) (work : Work) :
    (if c then first else second).program work
      = if c then first.program work else second.program work := by
  split <;> rfl

theorem program_enter_bind (frame : String) (next : Bool → Action α) (work : Work) :
    (enter frame >>= next).program work
      = match work.guard.enter? frame with
        | some inside => (next true).program { work with guard := inside }
        | none => (next false).program work := by
  unfold enter
  rw [program_bind, program_get_bind]
  cases work.guard.enter? frame <;> rfl

variable (resolver : Resolver) (again : String → Context → Action FeatureValue)

/-- **The program of a gate.** -/
theorem program_gateOpen (definition : Definition) (feature : String) (context : Context)
    (key : String) (work : Work) :
    (resolver.gateOpen again definition feature context key).program work
      = Program.ask (I := interface) .clock fun (now : Instant) =>
          if definition.isExpiredAt now then .done (.ok false, work)
          else if definition.required.isEmpty then .done (.ok true, work)
          else match work.guard.enter? (Guard.frame feature key) with
            | some inside =>
              (allOpen again context definition.required).program { work with guard := inside }
                >>= fun outcome =>
                  .done (outcome.1, { outcome.2 with guard := outcome.2.guard.leave })
            | none => (resolver.reportCycle feature key).program work := by
  unfold gateOpen
  rw [program_ask_bind]
  refine congrArg (Program.ask (I := interface) Request.clock) (funext fun now => ?_)
  rw [program_ite, program_ite, program_enter_bind]
  refine ite_congr rfl (fun _ => rfl) fun _ => ite_congr rfl (fun _ => rfl) fun _ => ?_
  cases work.guard.enter? (Guard.frame feature key) with
  | none => rfl
  | some inside =>
    dsimp only
    rw [if_pos rfl, program_bind, program_attempt, bind_assoc]
    refine congrArg _ (funext fun outcome => ?_)
    obtain ⟨result, after⟩ := outcome
    cases result <;> rfl

/-- **The program of a step.** -/
theorem program_resolveStep (feature : String) (context : Context) (work : Work) :
    (resolver.resolveStep again feature context).program work
      = (match work.registry.get? feature with
          | none => .done (.ok true, work)
          | some definition => (resolver.gateOpen again definition feature context
              (resolver.keyUnder work.ambient context)).program work)
        >>= fun (isOpen, after) => match isOpen with
          | .ok true => (resolver.resolveOpen feature context
              (resolver.keyUnder work.ambient context) (work.registry.get? feature)).program after
          | .ok false => .done (.ok .inactive, after)
          | .error e => .done (.error e, after) := by
  unfold resolveStep
  rw [program_contextKey_bind, program_get_bind]
  dsimp only
  cases work.registry.get? feature with
  | none => rfl
  | some definition =>
    refine (program_bind _ _ _).trans (congrArg _ (funext fun outcome => ?_))
    obtain ⟨result, after⟩ := outcome
    cases result with
    | error e => rfl
    | ok isOpen => cases isOpen <;> rfl

end Action

end FeatureGate.Resolver
