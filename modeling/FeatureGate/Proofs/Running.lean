import Mathlib.Logic.Basic
import FeatureGate.Proofs.Store.Rows
import FeatureGate.World

/-!
# Running operations

An operation of a resolver runs on a `State`: the unit of work and the world
around it. What comes out is a value or an error, and the state after it.

The laws of this module say what running does to each way of putting operations
together, and to each request, so that nothing later has to look at programs or
at the monads they are written in. The last section is about the store in
memory, where the only call that can fail is a first write.
-/

namespace FeatureGate

namespace Program

variable {I : Interface} {σ α β : Type}

/-- In a state, one program is run after another by handing on the state. -/
theorem run_interpret_bind (answer : (call : I.Call) → StateM σ (I.Reply call))
    (p : Program I α) (f : α → Program I β) (s : σ) :
    ((p >>= f).interpret answer).run s
      = ((f ((p.interpret answer).run s).1).interpret answer).run
          ((p.interpret answer).run s).2 := by
  rw [interpret_bind]
  rfl

end Program

namespace Resolver

/-- **What an operation runs on**: a unit of work, and the world around it. -/
structure State (σ : Type) where
  /-- The unit of work. -/
  work : Work
  /-- The world. -/
  world : World σ

namespace Action

variable {σ α β : Type}

/-! ## The program of an operation -/

@[simp] theorem program_pure (a : α) (work : Work) :
    (pure a : Action α).program work = .done (.ok a, work) := rfl

@[simp] theorem program_throw (e : FeatureError) (work : Work) :
    (throw e : Action α).program work = .done (.error e, work) := rfl

theorem program_bind (action : Action α) (next : α → Action β) (work : Work) :
    (action >>= next).program work
      = action.program work >>= fun outcome =>
          match outcome with
          | (.ok a, after) => (next a).program after
          | (.error e, after) => .done (.error e, after) := by
  show (ExceptT.run action).run work >>= _ = _
  refine congrArg _ (funext fun outcome => ?_)
  obtain ⟨result, after⟩ := outcome
  cases result <;> rfl

theorem program_attempt (action : Action α) (work : Work) :
    (attempt action).program work
      = action.program work >>= fun outcome => .done (.ok outcome.1, outcome.2) :=
  rfl

theorem program_get_bind (next : Work → Action α) (work : Work) :
    (get >>= next).program work = (next work).program work := rfl

theorem program_modify_bind (f : Work → Work) (next : PUnit → Action α) (work : Work) :
    (modify f >>= next).program work = (next ⟨⟩).program (f work) := rfl

theorem program_contextKey_bind (resolver : Resolver) (context : Context)
    (next : String → Action α) (work : Work) :
    (resolver.contextKey context >>= next).program work
      = (next (resolver.keyUnder work.ambient context)).program work := rfl

/-- Run one action after another, whoever answers: an error ends everything. -/
theorem run_interpret_bind (answer : (call : interface.Call) → StateM σ (interface.Reply call))
    (action : Action α) (next : α → Action β) (work : Work) (s : σ) :
    (((action >>= next).program work).interpret answer).run s
      = match ((action.program work).interpret answer).run s with
        | ((.ok a, after), t) => (((next a).program after).interpret answer).run t
        | ((.error e, after), t) => ((.error e, after), t) := by
  rw [program_bind, Program.run_interpret_bind]
  generalize ((action.program work).interpret answer).run s = ran
  obtain ⟨⟨result, after⟩, t⟩ := ran
  cases result <;> rfl

variable {store : Store (StateM σ)} {membership : Membership}

/-- **Run an operation**: its outcome, and the state after it. -/
def perform (store : Store (StateM σ)) (membership : Membership) (action : Action α)
    (s : State σ) : Except FeatureError α × State σ :=
  let outcome := (World.run store membership action s.work).run s.world
  (outcome.1.1, ⟨outcome.1.2, outcome.2⟩)

/-- Go on with a value, in the state in which it came out; an error ends
everything. -/
def andThen (outcome : Except FeatureError α × State σ)
    (next : α → State σ → Except FeatureError β × State σ) :
    Except FeatureError β × State σ :=
  match outcome with
  | (.ok a, s) => next a s
  | (.error e, s) => (.error e, s)

@[simp] theorem andThen_ok (a : α) (s : State σ)
    (next : α → State σ → Except FeatureError β × State σ) :
    andThen (.ok a, s) next = next a s := rfl

@[simp] theorem andThen_error (e : FeatureError) (s : State σ)
    (next : α → State σ → Except FeatureError β × State σ) :
    andThen (.error e, s) next = (.error e, s) := rfl

/-! ## Sequencing -/

@[simp] theorem perform_pure (a : α) (s : State σ) :
    (pure a : Action α).perform store membership s = (.ok a, s) := rfl

@[simp] theorem perform_throw (e : FeatureError) (s : State σ) :
    (throw e : Action α).perform store membership s = (.error e, s) := rfl

@[simp] theorem perform_bind (action : Action α) (next : α → Action β) (s : State σ) :
    (action >>= next).perform store membership s
      = andThen (action.perform store membership s)
          fun a t => (next a).perform store membership t := by
  have hrun := run_interpret_bind (World.answer store membership) action next s.work s.world
  unfold perform World.run
  dsimp only
  rw [hrun]
  generalize ((action.program s.work).interpret (World.answer store membership)).run s.world = ran
  obtain ⟨⟨result, after⟩, world⟩ := ran
  cases result <;> rfl

@[simp] theorem perform_get (s : State σ) :
    (get : Action Work).perform store membership s = (.ok s.work, s) := rfl

@[simp] theorem perform_modify (f : Work → Work) (s : State σ) :
    (modify f : Action Unit).perform store membership s
      = (.ok (), { s with work := f s.work }) := rfl

@[simp] theorem perform_attempt (action : Action α) (s : State σ) :
    (attempt action).perform store membership s
      = (.ok (action.perform store membership s).1, (action.perform store membership s).2) := by
  let rest : Except FeatureError α × Work →
      Program interface (Except FeatureError (Except FeatureError α) × Work) :=
    fun outcome => .done (.ok outcome.1, outcome.2)
  have hrun := Program.run_interpret_bind (World.answer store membership)
    (action.program s.work) rest s.world
  exact congrArg (fun o => (o.1.1, State.mk o.1.2 o.2)) hrun

@[simp] theorem perform_ofExcept (outcome : Except FeatureError α) (s : State σ) :
    (Resolver.ofExcept outcome).perform store membership s = (outcome, s) := by
  cases outcome <;> rfl

theorem perform_ite {c : Prop} [Decidable c] (x y : Action α) (s : State σ) :
    (if c then x else y).perform store membership s
      = if c then x.perform store membership s else y.perform store membership s := by
  split <;> rfl

/-! ## Requests -/

@[simp] theorem perform_ask_clock (s : State σ) :
    (ask .clock).perform store membership s = (.ok s.world.now, s) := rfl

@[simp] theorem perform_ask_groupsFor (key : String) (s : State σ) :
    (ask (.groupsFor key)).perform store membership s = (.ok (membership.groupsFor key), s) :=
  rfl

@[simp] theorem perform_ask_featuresIn (group : String) (s : State σ) :
    (ask (.featuresIn group)).perform store membership s
      = (.ok (membership.featuresIn group), s) := rfl

@[simp] theorem perform_ask_compute (closure : Closure) (context : Context) (s : State σ) :
    (ask (.compute closure context)).perform store membership s
      = (.ok (s.world.closures.call closure context).1,
          ⟨s.work, { s.world with closures := (s.world.closures.call closure context).2 }⟩) :=
  rfl

end Action

/-- **The state after a warning** was logged. -/
def State.warned {σ : Type} (s : State σ) (warning : Warning) : State σ :=
  ⟨s.work, { s.world with warnings := s.world.warnings ++ [warning] }⟩

/-- **The state after an event** was reported, which nothing but the listener
sees. -/
def State.told {σ : Type} (s : State σ) (resolver : Resolver) (event : Event) : State σ :=
  if resolver.config.emitEvents && resolver.hasListener then
    ⟨s.work, { s.world with events := s.world.events ++ [event] }⟩
  else s

namespace State

variable {σ : Type} (s : State σ) (resolver : Resolver) (event : Event) (warning : Warning)

@[simp] theorem work_warned : (s.warned warning).work = s.work := rfl

@[simp] theorem now_warned : (s.warned warning).world.now = s.world.now := rfl

@[simp] theorem store_warned : (s.warned warning).world.store = s.world.store := rfl

@[simp] theorem closures_warned : (s.warned warning).world.closures = s.world.closures := rfl

@[simp] theorem work_told : (s.told resolver event).work = s.work := by
  unfold told
  split <;> rfl

@[simp] theorem now_told : (s.told resolver event).world.now = s.world.now := by
  unfold told
  split <;> rfl

@[simp] theorem store_told : (s.told resolver event).world.store = s.world.store := by
  unfold told
  split <;> rfl

@[simp] theorem closures_told :
    (s.told resolver event).world.closures = s.world.closures := by
  unfold told
  split <;> rfl

end State

/-- **States that differ in what was reported only.** -/
structure State.Quiet {σ : Type} (s t : State σ) : Prop where
  /-- The unit of work is the same. -/
  work : t.work = s.work
  /-- The state of the store is the same. -/
  store : t.world.store = s.world.store
  /-- The clock is the same. -/
  now : t.world.now = s.world.now
  /-- The closures are the same, and were not called. -/
  closures : t.world.closures = s.world.closures

namespace State.Quiet

variable {σ : Type} {s t u : State σ}

theorem refl (s : State σ) : s.Quiet s := ⟨rfl, rfl, rfl, rfl⟩

theorem trans (hst : s.Quiet t) (htu : t.Quiet u) : s.Quiet u :=
  ⟨htu.work.trans hst.work, htu.store.trans hst.store, htu.now.trans hst.now,
    htu.closures.trans hst.closures⟩

theorem told (s : State σ) (resolver : Resolver) (event : Event) :
    s.Quiet (s.told resolver event) := ⟨by simp, by simp, by simp, by simp⟩

theorem warned (s : State σ) (warning : Warning) : s.Quiet (s.warned warning) :=
  ⟨rfl, rfl, rfl, rfl⟩

end State.Quiet

namespace Action

variable {σ : Type} {store : Store (StateM σ)} {membership : Membership}

@[simp] theorem perform_ask_warn (warning : Warning) (s : State σ) :
    (ask (.warn warning)).perform store membership s = (.ok (), s.warned warning) := rfl

@[simp] theorem perform_emit (resolver : Resolver) (event : Event) (s : State σ) :
    (resolver.emit event).perform store membership s = (.ok (), s.told resolver event) := by
  unfold emit State.told
  split <;> rfl

@[simp] theorem perform_contextKey (resolver : Resolver) (context : Context) (s : State σ) :
    (resolver.contextKey context).perform store membership s
      = (.ok (resolver.keyUnder s.work.ambient context), s) := rfl

@[simp] theorem perform_modifyCache (f : Cache → Cache) (s : State σ) :
    (modifyCache f).perform store membership s
      = (.ok (), ⟨{ s.work with cache := f s.work.cache }, s.world⟩) := rfl

/-! ## The store in memory -/

/-- **A call of the store in memory** gives its answer and leaves its rows
behind. -/
theorem perform_askStore_memory (call : Store.Call) (s : State Store.Rows) :
    (askStore call).perform Store.memory membership s
      = ((s.world.store.answer call).1.mapError .store,
          ⟨s.work, { s.world with store := (s.world.store.answer call).2 }⟩) := by
  unfold askStore
  rw [perform_bind]
  show andThen (.ok (s.world.store.answer call).1,
    State.mk s.work { s.world with store := (s.world.store.answer call).2 }) _ = _
  cases (s.world.store.answer call).1 <;> rfl

@[simp] theorem perform_get_memory (feature key : String) (s : State Store.Rows) :
    (askStore (.get feature key)).perform Store.memory membership s
      = (.ok (s.world.store.get? feature key), s) :=
  perform_askStore_memory _ s

/-- A first write succeeds if there is no row yet. -/
theorem perform_insert_memory {feature key : String} {s : State Store.Rows}
    (h : s.world.store.get? feature key = none) (value : Payload) :
    (askStore (.insert feature key value)).perform Store.memory membership s
      = (.ok (), ⟨s.work,
          { s.world with store := s.world.store.insert ⟨feature, key⟩ value }⟩) := by
  rw [perform_askStore_memory, Store.Rows.answer_insert_of_none h]
  rfl

end Action

end Resolver

end FeatureGate
