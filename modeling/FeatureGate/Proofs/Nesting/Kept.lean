import FeatureGate.Proofs.Conduct
import FeatureGate.Proofs.Nesting.Gate

/-!
# What a resolution keeps

Whatever it is told, a resolution changes nothing of its unit of work but the cache:
the definitions and the ambient scope stay what they are, and it leaves the frames in
flight as it found them (`Work.Kept`). For nested calls that takes an argument about
frames; here it is shown of what is done once the gate of a feature is open, where no
frames are touched and no cycle is reported.
-/

namespace FeatureGate.Resolver

/-- **The protocol of asking**: some requests may be made, and any reply may come to
them. Nothing needs to be known. -/
def asking (allowed : Request → Prop) : Protocol interface Unit where
  Allows _ request := allowed request
  Gives _ _ _ _ := True

/-- **Units of work that differ in what is cached only.** -/
structure Work.Kept (before after : Work) : Prop where
  /-- The definitions are the same. -/
  registry : after.registry = before.registry
  /-- The ambient scope is the same. -/
  ambient : after.ambient = before.ambient
  /-- The same frames are in flight. -/
  guard : after.guard = before.guard

namespace Work.Kept

open Resolver.Action (Maintains)

theorem refl (work : Work) : work.Kept work := ⟨rfl, rfl, rfl⟩

theorem trans {first second third : Work} (h : first.Kept second) (h' : second.Kept third) :
    first.Kept third :=
  ⟨h'.registry.trans h.registry, h'.ambient.trans h.ambient, h'.guard.trans h.guard⟩

variable {allowed : Request → Prop} {origin : Work} {resolver : Resolver}

theorem ask {request : Request} (h : allowed request) :
    (ask request).Maintains (asking allowed) fun work _ => origin.Kept work :=
  fun _ _ hkept => .ask h fun _ _ _ => hkept

theorem askStore {call : Store.Call} (h : allowed (.store call)) :
    (askStore call).Maintains (asking allowed) fun work _ => origin.Kept work :=
  fun _ _ hkept => .askStore h fun _ _ _ => hkept

theorem emit {event : Event} (h : allowed (.deliver event)) :
    (resolver.emit event).Maintains (asking allowed) fun work _ => origin.Kept work :=
  .emit_of_ask (ask h)

theorem modifyCache (f : Cache → Cache) :
    (modifyCache f).Maintains (asking allowed) fun work _ => origin.Kept work :=
  .modify fun _ _ hkept => ⟨hkept.registry, hkept.ambient, hkept.guard⟩

section Plain

variable (hplain : ∀ request, request.IsPlain → allowed request)
include hplain

/-- **An open feature is resolved** without touching a frame or reporting a cycle. -/
theorem resolveOpen (feature : String) (context : Context) (key : String)
    (definition : Option Definition) :
    (resolver.resolveOpen feature context key definition).Maintains (asking allowed)
      fun work _ => origin.Kept work :=
  Maintains.Serves.resolveOpen
    { get := askStore (hplain _ trivial)
      insert := fun _ => askStore (hplain _ trivial)
      compute := fun _ _ => ask (hplain _ trivial)
      inherit := .groupValue (fun _ => ask (hplain _ trivial))
        (fun _ => askStore (hplain _ trivial)) key (ask (hplain _ trivial))
      keep := fun _ => modifyCache _
      report := fun _ h => ask (hplain _ h.isPlain) }
    context definition

end Plain

end Work.Kept

/-- A frame that is met again closes the gate, and is reported; nothing else happens. -/
theorem yields_reportCycle (resolver : Resolver) (feature key : String) (work : Work) :
    (resolver.reportCycle feature key).Yields (asking fun _ => True) work ()
      fun result after _ => result = .ok false ∧ after = work := by
  unfold reportCycle Resolver.emit
  refine .ask_bind trivial fun _ _ _ => .get_bind ?_
  split
  · exact .ask_bind trivial fun _ _ _ => .pure ⟨rfl, rfl⟩
  · exact .pure ⟨rfl, rfl⟩

/-- **Reporting a cycle** maintains an invariant if the warning and the report do. -/
theorem Action.Maintains.reportCycle {γ : Type} {protocol : Protocol interface γ}
    {inv : Work → γ → Prop} {resolver : Resolver} {feature key : String}
    (hwarn : (ask (.warn (.dependencyCycle feature key))).Maintains protocol inv)
    (hdeliver : ∀ frames,
      (ask (.deliver (.cycleDetected feature frames))).Maintains protocol inv) :
    (resolver.reportCycle feature key).Maintains protocol inv :=
  .bind hwarn fun _ => .get_bind fun _ _ _ => .bind (.emit_of_ask (hdeliver _)) fun _ =>
    .pure false

namespace Action.Yields

variable {α γ : Type} {protocol : Protocol interface γ} {work : Work} {known : γ}
  {expected : Except FeatureError α → Work → γ → Prop}

/-- Whoever enters a frame goes on with whether it was in flight already. -/
theorem enter_bind {frame : String} {next : Bool → Action α}
    (hnew : ∀ inside, work.guard.enter? frame = some inside →
      (next true).Yields protocol { work with guard := inside } known expected)
    (hagain : work.guard.enter? frame = none →
      (next false).Yields protocol work known expected) :
    (enter frame >>= next).Yields protocol work known expected := by
  unfold Yields
  rw [program_enter_bind]
  cases henter : work.guard.enter? frame with
  | none => exact hagain henter
  | some inside => exact hnew inside henter

/-- What holds whatever is replied holds under any protocol. -/
theorem and_asking {action : Action α} {allowed : Request → Prop}
    {expected' : Except FeatureError α → Work → Prop}
    (h : action.Yields protocol work known expected)
    (h' : action.Yields (asking allowed) work () fun result after _ => expected' result after) :
    action.Yields protocol work known fun result after known =>
      expected result after known ∧ expected' result after := by
  unfold Yields at h h' ⊢
  generalize action.program work = program at h h' ⊢
  induction program generalizing known with
  | done outcome => exact ⟨h, h'⟩
  | ask call next ih =>
    exact ⟨h.1, fun reply after hgives => ih reply (h.2 reply after hgives) (h'.2 reply () trivial)⟩

end Action.Yields

end FeatureGate.Resolver
