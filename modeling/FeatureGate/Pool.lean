import FeatureGate.Program

/-!
# Programs in turn

Several programs may share one state and take turns at it. A **pool** holds
what is left of each program, and the state. The unit of a turn is one request:
a program asks, the state answers, and the next turn may be any program's. So a
schedule, a list of positions, fixes everything that happens, and what holds
for every schedule holds however the programs interleave.
-/

namespace FeatureGate

namespace Program

variable {I : Interface} {α σ : Type}

/-- Run a program to its end. -/
def finish (answer : (call : I.Call) → StateM σ (I.Reply call)) (program : Program I α)
    (state : σ) : Program I α × σ :=
  let finished := (program.interpret answer).run state
  (done finished.1, finished.2)

/-- **Run a program past the first request of some sort**, that request
included, or to its end if it makes none. -/
def runPast (answer : (call : I.Call) → StateM σ (I.Reply call)) (stop : I.Call → Bool) :
    Program I α → σ → Program I α × σ
  | done result, state => (done result, state)
  | ask call next, state =>
    let answered := (answer call).run state
    if stop call then (next answered.1, answered.2)
    else runPast answer stop (next answered.1) answered.2

end Program

/-- **A pool** of programs that share a state. -/
structure Pool (I : Interface) (α σ : Type) where
  /-- What is left of each program. -/
  programs : List (Program I α)
  /-- The state. -/
  state : σ

namespace Pool

variable {I : Interface} {α σ : Type}

/-- Let one program go on in some way; nothing happens if there is no such
program. -/
def advance (pool : Pool I α σ) (move : Program I α → σ → Program I α × σ) (i : Nat) :
    Pool I α σ :=
  match pool.programs[i]? with
  | some program =>
    let moved := move program pool.state
    ⟨pool.programs.set i moved.1, moved.2⟩
  | none => pool

/-- **Follow a schedule**: one request of the program at each position. -/
def follow (answer : (call : I.Call) → StateM σ (I.Reply call)) (pool : Pool I α σ)
    (schedule : List Nat) : Pool I α σ :=
  schedule.foldl (fun pool i => pool.advance (Program.step answer) i) pool

/-- The results of the programs that are done. -/
def results (pool : Pool I α σ) : List (Option α) := pool.programs.map Program.result?

end Pool

end FeatureGate
