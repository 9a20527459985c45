/-!
# Programs with requests

What a resolver does depends on answers from outside: a store, a clock, group
membership, the closures of definitions, a listener. A **program** is such a
computation with the outside left open. It is a tree: either it is done, or it
asks a question of an `Interface` and goes on in a way that depends on the
reply.

Nothing is assumed about the replies, so a program says what is asked whatever
is answered. Giving the interface a meaning in some monad (`Program.interpret`)
makes the program run: against a store in memory, against a scripted store that
fails, against a server, or one request at a time in turn with other programs
(`Program.step`).
-/

namespace FeatureGate

/-- **An interface**: what may be asked, and the type of the reply to each
question. -/
structure Interface where
  /-- The questions. -/
  Call : Type
  /-- The replies to a question. -/
  Reply : Call → Type

/-- **A program** over an interface: a finite or infinitely branching tree of
questions, with a result at every leaf. -/
inductive Program (I : Interface) (α : Type) : Type where
  /-- The result. -/
  | done (result : α)
  /-- Ask, and go on with the reply. -/
  | ask (call : I.Call) (next : I.Reply call → Program I α)

namespace Program

variable {I J : Interface} {α β γ : Type}

/-- Run one program after another. -/
def bind : Program I α → (α → Program I β) → Program I β
  | done result, f => f result
  | ask call next, f => ask call fun reply => (next reply).bind f

instance : Monad (Program I) where
  pure := done
  bind := bind

@[simp]
theorem pure_eq (a : α) : (pure a : Program I α) = done a := rfl

@[simp]
theorem done_bind (a : α) (f : α → Program I β) : done a >>= f = f a := rfl

@[simp]
theorem ask_bind (call : I.Call) (next : I.Reply call → Program I α)
    (f : α → Program I β) :
    ask call next >>= f = ask call fun reply => next reply >>= f := rfl

theorem bind_done (p : Program I α) : p >>= done = p := by
  induction p with
  | done => rfl
  | ask call next ih =>
    rw [ask_bind]
    exact congrArg (ask call) (funext ih)

theorem bind_assoc (p : Program I α) (f : α → Program I β) (g : β → Program I γ) :
    p >>= f >>= g = p >>= fun a => f a >>= g := by
  induction p with
  | done => rfl
  | ask call next ih =>
    simp only [ask_bind]
    exact congrArg (ask call) (funext ih)

instance : LawfulMonad (Program I) :=
  LawfulMonad.mk' _ bind_done (fun _ _ => rfl) bind_assoc

/-- The program that asks one question. -/
def request (call : I.Call) : Program I (I.Reply call) := ask call done

/-- **Give the interface a meaning**: answer every question in a monad. -/
def interpret {m : Type → Type} [Monad m] (answer : (call : I.Call) → m (I.Reply call)) :
    Program I α → m α
  | done result => pure result
  | ask call next => do
    let reply ← answer call
    (next reply).interpret answer

@[simp]
theorem interpret_done {m : Type → Type} [Monad m]
    (answer : (call : I.Call) → m (I.Reply call)) (a : α) :
    (done a : Program I α).interpret answer = pure a := rfl

@[simp]
theorem interpret_ask {m : Type → Type} [Monad m]
    (answer : (call : I.Call) → m (I.Reply call)) (call : I.Call)
    (next : I.Reply call → Program I α) :
    (ask call next).interpret answer
      = answer call >>= fun reply => (next reply).interpret answer := rfl

/-- Meanings respect sequencing. -/
theorem interpret_bind {m : Type → Type} [Monad m] [LawfulMonad m]
    (answer : (call : I.Call) → m (I.Reply call)) (p : Program I α)
    (f : α → Program I β) :
    (p >>= f).interpret answer
      = p.interpret answer >>= fun a => (f a).interpret answer := by
  induction p with
  | done => simp
  | ask call next ih => simp [ih]

/-- **One step** of a program against a state: the first question is answered,
and the rest of the program is left. A program that is done stays as it is. -/
def step {σ : Type} (answer : (call : I.Call) → StateM σ (I.Reply call)) :
    Program I α → σ → Program I α × σ
  | done result, state => (done result, state)
  | ask call next, state =>
    let answered := (answer call).run state
    (next answered.1, answered.2)

/-- The result of a program that is done. -/
def result? : Program I α → Option α
  | done result => some result
  | ask .. => none

end Program

end FeatureGate
