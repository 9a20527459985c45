import FeatureGate.Proofs.Resolution.Values
import FeatureGate.Resolver.Load

/-!
# Two runs of an operation

That an operation does not depend on something is a statement about two runs of it,
from states that differ in just that. The states are *related*, and an operation
respects the relation (`Respects`) if it gives the same result in both and leaves
states behind that are related again.

This goes through every way of putting operations together, for any relation
between states with the same frames in flight, the same definitions and the same
clock (`Correlated`). So in the end it has to be shown of one operation only, the
resolution of an open feature.
-/

namespace FeatureGate.Resolver

variable {σ α β : Type} {store : Store (StateM σ)} {membership : Membership}
  {related : State σ → State σ → Prop}

/-- **An action that respects a relation** between states: it does not show which of
two related states it runs in. -/
def Respects (store : Store (StateM σ)) (membership : Membership)
    (related : State σ → State σ → Prop) (action : Action α) : Prop :=
  ∀ s t, related s t →
    (action.perform store membership s).1 = (action.perform store membership t).1
      ∧ related (action.perform store membership s).2 (action.perform store membership t).2

/-- **A relation that reports and frames in flight have nothing to do with.** -/
structure Correlated (related : State σ → State σ → Prop) : Prop where
  /-- The clocks are the same. -/
  now {s t : State σ} : related s t → s.world.now = t.world.now
  /-- The same frames are in flight. -/
  guard {s t : State σ} : related s t → s.work.guard = t.work.guard
  /-- The same definitions are registered. -/
  registry {s t : State σ} : related s t → s.work.registry = t.work.registry
  /-- Any other frames may be in flight. -/
  within {s t : State σ} (guard : Guard) : related s t → related (s.within guard) (t.within guard)
  /-- Anything may be reported. -/
  quiet {s t s' t' : State σ} : related s t → s.Quiet s' → t.Quiet t' → related s' t'

namespace Respects

/-! ## Putting actions together -/

theorem pure (a : α) : Respects store membership related (Pure.pure a : Action α) :=
  fun _ _ h => ⟨rfl, h⟩

theorem throw (e : FeatureError) :
    Respects store membership related (MonadExcept.throw e : Action α) :=
  fun _ _ h => ⟨rfl, h⟩

theorem bind {first : Action α} {next : α → Action β}
    (hfirst : Respects store membership related first)
    (hnext : ∀ a, Respects store membership related (next a)) :
    Respects store membership related (first >>= next) := by
  intro s t h
  obtain ⟨hresult, hrelated⟩ := hfirst s t h
  rw [Action.perform_bind, Action.perform_bind]
  revert hresult hrelated
  generalize first.perform store membership s = left
  generalize first.perform store membership t = right
  obtain ⟨result, s'⟩ := left
  obtain ⟨result', t'⟩ := right
  rintro rfl hrelated
  cases result with
  | error e => exact ⟨rfl, hrelated⟩
  | ok a => exact hnext a s' t' hrelated

/-- Looking at the unit of work is no different if the same is made of it in
related states. -/
theorem get_bind {next : Work → Action α}
    (hsame : ∀ s t, related s t → next s.work = next t.work)
    (hnext : ∀ s t, related s t → Respects store membership related (next s.work)) :
    Respects store membership related (get >>= next) := by
  intro s t h
  rw [Action.perform_bind, Action.perform_bind, Action.perform_get, Action.perform_get,
    Action.andThen_ok, Action.andThen_ok, ← hsame s t h]
  exact hnext s t h s t h

theorem ite {c : Prop} [Decidable c] {first second : Action α}
    (hfirst : Respects store membership related first)
    (hsecond : Respects store membership related second) :
    Respects store membership related (if c then first else second) := by
  split
  · exact hfirst
  · exact hsecond

theorem attempt {action : Action α} (h : Respects store membership related action) :
    Respects store membership related (Resolver.attempt action) := by
  intro s t hrelated
  rw [Action.perform_attempt, Action.perform_attempt]
  obtain ⟨hresult, hafter⟩ := h s t hrelated
  exact ⟨congrArg Except.ok hresult, hafter⟩

theorem ofExcept (outcome : Except FeatureError α) :
    Respects store membership related (Resolver.ofExcept outcome) := by
  cases outcome
  · exact throw _
  · exact pure _

theorem mapM {δ : Type} {action : δ → Action α} {list : List δ}
    (h : ∀ a ∈ list, Respects store membership related (action a)) :
    Respects store membership related (list.mapM action) := by
  induction list with
  | nil => exact pure _
  | cons a rest ih =>
    rw [List.mapM_cons]
    exact bind (h a List.mem_cons_self) fun _ =>
      bind (ih fun b hb => h b (List.mem_cons_of_mem a hb)) fun _ => pure _

theorem forM {δ : Type} {action : δ → Action PUnit} {list : List δ}
    (h : ∀ a ∈ list, Respects store membership related (action a)) :
    Respects store membership related (list.forM action) := by
  induction list with
  | nil => exact pure _
  | cons a rest ih =>
    show Respects store membership related (action a >>= fun _ => rest.forM action)
    exact bind (h a List.mem_cons_self) fun _ => ih fun b hb => h b (List.mem_cons_of_mem a hb)

/-! ## Requests on the side, and frames -/

section Correlated

variable (h : Correlated related)
include h

theorem clock : Respects store membership related (ask .clock) := by
  intro s t hrelated
  rw [Action.perform_ask_clock, Action.perform_ask_clock, h.now hrelated]
  exact ⟨rfl, hrelated⟩

theorem warn (warning : Warning) :
    Respects store membership related (ask (.warn warning)) := by
  intro s t hrelated
  rw [Action.perform_ask_warn, Action.perform_ask_warn]
  exact ⟨rfl, h.quiet hrelated (.warned s warning) (.warned t warning)⟩

theorem emit (resolver : Resolver) (event : Event) :
    Respects store membership related (resolver.emit event) := by
  intro s t hrelated
  rw [Action.perform_emit, Action.perform_emit]
  exact ⟨rfl, h.quiet hrelated (.told s resolver event) (.told t resolver event)⟩

theorem modifyGuard (f : Guard → Guard) :
    Respects store membership related
      (modify fun work : Work => { work with guard := f work.guard }) := by
  intro s t hrelated
  rw [Action.perform_modify, Action.perform_modify]
  refine ⟨rfl, ?_⟩
  show related (s.within (f s.work.guard)) (t.within (f t.work.guard))
  rw [h.guard hrelated]
  exact h.within _ hrelated

theorem enter (frame : String) : Respects store membership related (enter frame) := by
  intro s t hrelated
  rw [Action.perform_enter, Action.perform_enter, h.guard hrelated]
  cases t.work.guard.enter? frame with
  | none => exact ⟨rfl, hrelated⟩
  | some guard => exact ⟨rfl, h.within guard hrelated⟩

theorem leave : Respects store membership related leave := modifyGuard h Guard.leave

/-! ## Gates -/

variable {context : Context} {again : String → Context → Action FeatureValue}

omit h in
theorem allOpen {required : List String}
    (hagain : ∀ r ∈ required, Respects store membership related (again r context)) :
    Respects store membership related (allOpen again context required) := by
  induction required with
  | nil => exact pure true
  | cons r rest ih =>
    rw [Resolver.allOpen]
    exact bind (hagain r List.mem_cons_self) fun value =>
      ite (ih fun r hr => hagain r (List.mem_cons_of_mem _ hr)) (pure false)

theorem gateOpen {definition : Definition}
    (hagain : ∀ r ∈ definition.required, Respects store membership related (again r context))
    (resolver : Resolver) (feature key : String) :
    Respects store membership related
      (resolver.gateOpen again definition feature context key) := by
  rw [Resolver.gateOpen]
  refine bind (clock h) fun now =>
    ite (pure false) (ite (pure true) (bind (enter h _) fun entered => ite ?_ ?_))
  · exact bind (attempt (allOpen hagain)) fun outcome =>
      bind (leave h) fun _ => ofExcept outcome
  · refine bind (warn h _) fun _ => get_bind (fun s t hrelated => ?_) fun _ _ _ =>
      bind (emit h _ _) fun _ => pure false
    rw [h.guard hrelated]

end Correlated

/-! ## Resolution -/

/-- **Open features are resolved alike** in related states, for one context: some
features, and with each of them those it requires. -/
structure Opens (store : Store (StateM σ)) (membership : Membership)
    (related : State σ → State σ → Prop) (resolver : Resolver) (context : Context)
    (among : String → Prop) : Prop extends Correlated related where
  /-- The context has the same key. -/
  key {s t : State σ} : related s t →
    resolver.keyUnder s.work.ambient context = resolver.keyUnder t.work.ambient context
  /-- What is required of one of the features is one of them. -/
  required {feature : String} {s t : State σ} {definition : Definition} :
    among feature → related s t → s.work.registry.get? feature = some definition →
    ∀ r ∈ definition.required, among r
  /-- Resolving one of them, once it is open, respects the relation. -/
  resolveOpen {feature : String} {s t : State σ} : among feature → related s t →
    Respects store membership related (resolver.resolveOpen feature context
      (resolver.keyUnder s.work.ambient context) (s.work.registry.get? feature))

namespace Opens

variable {resolver : Resolver} {context : Context} {among : String → Prop} {feature : String}

theorem resolveStep (h : Opens store membership related resolver context among)
    {again : String → Context → Action FeatureValue}
    (hagain : ∀ r, among r → Respects store membership related (again r context))
    (hamong : among feature) :
    Respects store membership related (resolver.resolveStep again feature context) := by
  intro s t hrelated
  have hresolve : ∀ isOpen : Bool, Respects store membership related
      (if isOpen then resolver.resolveOpen feature context
        (resolver.keyUnder s.work.ambient context) (s.work.registry.get? feature)
        else Pure.pure .inactive : Action FeatureValue) :=
    fun isOpen => ite (h.resolveOpen hamong hrelated) (pure _)
  have hrequired := fun definition => @h.required feature s t definition hamong hrelated
  rw [Resolver.resolveStep, Action.perform_bind, Action.perform_bind, Action.perform_contextKey,
    Action.perform_contextKey, Action.andThen_ok, Action.andThen_ok, ← h.key hrelated,
    Action.perform_bind, Action.perform_bind, Action.perform_get, Action.perform_get,
    Action.andThen_ok, Action.andThen_ok]
  dsimp only
  rw [← h.registry hrelated]
  revert hresolve hrequired
  cases s.work.registry.get? feature with
  | none => exact fun hresolve _ => bind (pure true) hresolve s t hrelated
  | some definition =>
    exact fun hresolve hrequired => bind (gateOpen h.toCorrelated (fun r hr =>
      hagain r (hrequired definition rfl r hr)) _ _ _) hresolve s t hrelated

theorem resolveNested (h : Opens store membership related resolver context among)
    {floor : String → Context → Action FeatureValue}
    (hfloor : ∀ feature, Respects store membership related (floor feature context))
    (depth : Nat) (hamong : among feature) :
    Respects store membership related (resolver.resolveNested floor depth feature context) := by
  induction depth generalizing feature with
  | zero => exact hfloor feature
  | succ depth ih => exact h.resolveStep (fun _ => ih) hamong

/-- **Resolving a feature** respects what the resolution of open ones does. -/
theorem resolve (h : Opens store membership related resolver context among)
    (hamong : among feature) :
    Respects store membership related (resolver.resolve feature context) := by
  rw [Resolver.resolve]
  refine bind (modifyGuard h.toCorrelated fun _ => .empty) fun _ =>
    get_bind (fun s t hrelated => ?_) fun _ _ _ =>
      h.resolveNested (fun _ => pure _) _ hamong
  rw [h.registry hrelated]

end Opens

/-! ## Queries -/

section Queries

variable {resolver : Resolver} {context : Context} {feature : String}

theorem resolveVariant (hcorrelated : Correlated related)
    (h : Respects store membership related (resolver.resolve feature context)) :
    Respects store membership related (resolver.resolveVariant feature context) := by
  rw [Resolver.resolveVariant]
  refine get_bind (fun s t hrelated => ?_) fun s _ _ => ite (throw _) (bind h fun value => ?_)
  · rw [hcorrelated.registry hrelated]
  · split
    · exact pure _
    · exact throw _

theorem isActive (h : Respects store membership related (resolver.resolve feature context)) :
    Respects store membership related (resolver.isActive feature context) :=
  bind h fun _ => pure _

variable (h : ∀ feature, Respects store membership related (resolver.resolve feature context))
include h

theorem allAreActive (features : List String) :
    Respects store membership related (resolver.allAreActive features context) := by
  induction features with
  | nil => exact pure true
  | cons feature rest ih =>
    rw [Resolver.allAreActive]
    exact bind (isActive (h feature)) fun active => ite ih (pure false)

theorem someAreActive (features : List String) :
    Respects store membership related (resolver.someAreActive features context) := by
  induction features with
  | nil => exact pure false
  | cons feature rest ih =>
    rw [Resolver.someAreActive]
    exact bind (isActive (h feature)) fun active => ite (pure true) ih

theorem values (features : List String) :
    Respects store membership related (resolver.values features context) :=
  bind (mapM fun feature _ => bind (h feature) fun _ => pure _) fun _ => pure _

theorem all (hcorrelated : Correlated related) :
    Respects store membership related (resolver.all context) :=
  get_bind (fun s t hrelated => by rw [hcorrelated.registry hrelated]) fun _ _ _ => values h _

end Queries

end Respects

end FeatureGate.Resolver
