import FeatureGate.Proofs.Nesting.Kept

/-!
# Amid frames in flight

A feature whose frame is in flight is not resolved a second time: if it requires
others, its gate is closed by the frame. So what a resolution does to open features
can be said without those whose frames are in flight, as long as they are
(`Amid`).

The rule for nested calls (`Amid.resolveNested`) carries the frames along: a call
puts frames of its own on top of those that it finds, and takes off no others
(`Work.Kept`). A gate needs less than that, since it resolves nothing itself
(`Indifferent`).
-/

namespace FeatureGate.Resolver

open Resolver.Action (Maintains Yields)

variable {α γ : Type} {protocol : Protocol interface γ} {inv : Work → γ → Prop}
  {resolver : Resolver} {context : Context} {frames : List String} {feature key : String}
  {again : String → Context → Action FeatureValue} {origin work : Work} {known : γ}

/-- **What a call comes to** that maintains an invariant, and changes nothing of its unit of
work but the cache. -/
abbrev Action.Preserves (protocol : Protocol interface γ) (inv : Work → γ → Prop)
    (action : Action α) (work : Work) (known : γ) : Prop :=
  action.Yields protocol work known fun _ after later => inv after later ∧ work.Kept after

/-- Whoever makes a request that maintains an invariant goes on under it, with the same unit
of work. -/
theorem Action.Maintains.ask_bind {request : Request} {next : request.Reply → Action α}
    {expected : Except FeatureError α → Work → γ → Prop}
    (h : (ask request).Maintains protocol inv) (hinv : inv work known)
    (hnext : ∀ reply later, inv work later → (next reply).Yields protocol work later expected) :
    (ask request >>= next).Yields protocol work known expected :=
  .ask_bind (h work known hinv).1 fun reply later hgives =>
    hnext reply later ((h work known hinv).2 reply later hgives)

/-- **Requirements are asked for** under an invariant that each of the calls preserves. -/
theorem yields_allOpen {required : List String}
    (hagain : ∀ r ∈ required, ∀ below later, inv below later → origin.Kept below →
      (again r context).Preserves protocol inv below later)
    (hinv : inv work known) (hkept : origin.Kept work) :
    (allOpen again context required).Yields protocol work known
      fun _ after later => inv after later ∧ origin.Kept after := by
  induction required generalizing work known with
  | nil => exact .pure ⟨hinv, hkept⟩
  | cons r rest ih =>
    unfold allOpen
    refine .bind (hagain r List.mem_cons_self work known hinv hkept) ?_
      fun _ _ _ hafter => ⟨hafter.1, hkept.trans hafter.2⟩
    intro value after later hafter
    split
    · exact ih (fun r hr => hagain r (List.mem_cons_of_mem _ hr)) hafter.1
        (hkept.trans hafter.2)
    · exact .pure ⟨hafter.1, hkept.trans hafter.2⟩

/-! ## Gates -/

/-- **An invariant that gates make no difference to**: any frames may be in flight, the
clock may be read, and a frame that is met again may be reported. -/
structure Indifferent (protocol : Protocol interface γ) (inv : Work → γ → Prop)
    (resolver : Resolver) : Prop where
  /-- Any frames may be in flight. -/
  guard {work : Work} {known : γ} (guard : Guard) :
    inv work known → inv { work with guard } known
  /-- The clock may be read. -/
  clock : (ask .clock).Maintains protocol inv
  /-- A cycle may be reported. -/
  reportCycle (feature key : String) :
    (resolver.reportCycle feature key).Maintains protocol inv

/-- **A gate** preserves what the calls behind it do, which are made from within its frame. If
it is found open, the feature requires nothing, or its frame was not in flight. -/
theorem Indifferent.gateOpen (h : Indifferent protocol inv resolver) {definition : Definition}
    (hagain : definition.required ≠ [] → ∀ inside,
      work.guard.enter? (Guard.frame feature key) = some inside →
      ∀ r below later, inv below later → Work.Kept { work with guard := inside } below →
        (again r context).Preserves protocol inv below later)
    (hinv : inv work known) :
    (resolver.gateOpen again definition feature context key).Yields protocol work known
      fun result after later => inv after later ∧ work.Kept after
        ∧ (result = .ok true → definition.required ≠ [] →
          Guard.frame feature key ∉ work.guard.frames) := by
  unfold Resolver.gateOpen
  refine h.clock.ask_bind hinv fun now read hread => ?_
  split
  · exact .pure ⟨hread, .refl work, nofun⟩
  · split
    · rename_i hempty
      exact .pure ⟨hread, .refl work, fun _ hne => absurd (List.isEmpty_iff.mp hempty) hne⟩
    · rename_i hrequired
      refine .enter_bind (fun inside henter => ?_) fun _ => ?_
      · -- the frame is taken off again, and so is no other
        have hall : (attempt (allOpen again context definition.required)).Yields protocol
            { work with guard := inside } read fun outcome after later =>
              (∃ result, outcome = .ok result) ∧ inv after later
                ∧ Work.Kept { work with guard := inside } after :=
          .attempt ((yields_allOpen (fun r _ => hagain (by simpa using hrequired) inside henter r)
            (h.guard inside hread) (.refl _)).mono fun result _ _ hafter => ⟨⟨result, rfl⟩, hafter⟩)
        refine .bind hall ?_ ?_
        · rintro outcome after later ⟨-, hafter, hkept⟩
          refine .modify_bind (.ofExcept ⟨h.guard _ hafter,
            ⟨hkept.registry, hkept.ambient, ?_⟩, fun _ _ => Guard.notMem_of_enter? henter⟩)
          rw [← Guard.leave_of_enter? henter, hkept.guard]
        · rintro error after later ⟨⟨_, ⟨⟩⟩, -⟩
      · refine .mono ((h.reportCycle feature key work read hread).and_asking
          (resolver.yields_reportCycle feature key work)) ?_
        rintro _ _ later ⟨hlater, rfl, rfl⟩
        exact ⟨hlater, .refl _, nofun⟩

/-! ## Nested calls -/

/-- **What holds amid frames in flight**: an invariant that gates make no difference to, and
that resolving open features maintains, for one context, if their frames are not among
these. A feature that requires nothing has no frame. -/
structure Amid (protocol : Protocol interface γ) (inv : Work → γ → Prop) (resolver : Resolver)
    (context : Context) (frames : List String) : Prop
    extends Indifferent protocol inv resolver where
  /-- An open feature may be resolved. -/
  resolveOpen {feature : String} {work : Work} {known : γ} : inv work known →
    (∀ definition, work.registry.get? feature = some definition → definition.required ≠ [] →
      Guard.frame feature (resolver.keyUnder work.ambient context) ∉ frames) →
    (resolver.resolveOpen feature context (resolver.keyUnder work.ambient context)
      (work.registry.get? feature)).Maintains protocol inv

namespace Amid

/-- **One step of a resolution** preserves what the calls from within its frame do, while the
frames are in flight. -/
theorem resolveStep (h : Amid protocol inv resolver context frames)
    (hagain : ∀ r below later, inv below later → frames ⊆ below.guard.frames →
      (again r context).Preserves protocol inv below later)
    (hinv : inv work known) (hframes : frames ⊆ work.guard.frames) :
    (resolver.resolveStep again feature context).Preserves protocol inv work known := by
  have hopen : (∀ definition, work.registry.get? feature = some definition →
      definition.required ≠ [] →
      Guard.frame feature (resolver.keyUnder work.ambient context) ∉ frames) →
      ∀ after later, inv after later → work.Kept after →
      (resolver.resolveOpen feature context (resolver.keyUnder work.ambient context)
        (work.registry.get? feature)).Yields protocol after later
          fun _ last latest => inv last latest ∧ work.Kept last :=
    fun hout after later hafter hkept => (h.resolveOpen hinv hout after later hafter).and_asking
      (Work.Kept.resolveOpen (fun _ _ => trivial) feature context _ _ after () hkept)
  unfold Resolver.resolveStep
  refine .contextKey_bind (.get_bind ?_)
  dsimp only
  -- the definition is looked up once, so what is known of it is split with it
  revert hopen
  cases work.registry.get? feature with
  | none =>
    intro hopen
    refine hopen ?_ work known hinv (.refl work)
    rintro _ ⟨⟩
  | some definition =>
    intro hopen
    refine .bind (h.gateOpen (fun _ inside henter r below later hbelow hkept =>
      hagain r below later hbelow ?_) hinv) ?_ fun _ _ _ hafter => ⟨hafter.1, hafter.2.1⟩
    · rw [hkept.guard, Guard.frames_of_enter? henter]
      exact List.subset_append_of_subset_left _ hframes
    · rintro isOpen after later ⟨hafter, hkept, hnew⟩
      cases isOpen with
      | false => exact .pure ⟨hafter, hkept⟩
      | true =>
        refine hopen ?_ after later hafter hkept
        rintro _ ⟨⟩ hrequired hmem
        exact hnew rfl hrequired (hframes hmem)

/-- **Nested calls** preserve what resolving open features does, while the frames are in
flight. -/
theorem resolveNested (h : Amid protocol inv resolver context frames) (depth : Nat)
    (hinv : inv work known) (hframes : frames ⊆ work.guard.frames) :
    (resolver.resolveNested (fun _ _ => return .inactive) depth feature context).Preserves
      protocol inv work known := by
  induction depth generalizing feature work known with
  | zero => exact .pure ⟨hinv, .refl work⟩
  | succ depth ih => exact h.resolveStep (fun r below later => ih) hinv hframes

/-- **Resolving a feature** maintains what resolving open ones does, since nothing is in flight
when it begins. -/
theorem resolve (h : Amid protocol inv resolver context []) (feature : String) :
    (resolver.resolve feature context).Maintains protocol inv := by
  intro work known hinv
  unfold Resolver.resolve
  refine .modify_bind (.get_bind ?_)
  exact (h.resolveNested _ (h.guard .empty hinv) (List.nil_subset _)).mono fun _ _ _ hafter =>
    hafter.1

end Amid

end FeatureGate.Resolver
