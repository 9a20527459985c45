import Mathlib.Data.List.Range
import FeatureGate.Proofs.Interference
import FeatureGate.Proofs.Protocol

/-!
# Moments and turns of a schedule

A history lists what was asked and answered. To say *when* something held of the
state that the programs of a pool share, turns are counted: the moment `n` is
the one after `n` turns (`Pool.moment`), and the turn `n` leads from it to the
moment `n + 1`.

What a program asks in a turn is `Pool.asked`, and the turns in which it makes
requests of some sort are `Pool.turnsOf`, in increasing order. Over all turns of a
schedule this is the history again (`Pool.map_asked_turnsOf`), so what is known of
the history of one program can be carried to the moments at which its requests
were made.

A program that follows a protocol, and is answered as the protocol says, keeps
what it ends with as a promise, when its notes are what is known
(`Program.Follows.keeps`).
-/

namespace FeatureGate

variable {I : Interface} {α σ γ : Type}

namespace Pool

variable (answer : (call : I.Call) → StateM σ (I.Reply call)) (pool : Pool I α σ)
  (schedule : List Nat)

/-- **The pool at a moment** of a schedule: after so many turns. -/
def moment (n : Nat) : Pool I α σ := pool.follow answer (schedule.take n)

/-- What a program asks in a turn of a schedule, and what it is answered; nothing if
it is not its turn. -/
def asked (i n : Nat) : Option (Exchange I) :=
  if schedule[n]? = some i then (pool.moment answer schedule n).exchange? answer i else none

/-- **The turns of a program** in which it makes a request of some sort, in
order. -/
def turnsOf (sort : I.Call → Bool) (i : Nat) : List Nat :=
  (List.range schedule.length).filter fun n =>
    (pool.asked answer schedule i n).any (sort ·.call)

variable {answer pool schedule}

/-- A turn in which nothing is asked changes nothing. -/
theorem state_advance_of_exchange? {i : Nat} (h : pool.exchange? answer i = none) :
    (pool.advance (Program.step answer) i).state = pool.state := by
  unfold exchange? at h
  unfold advance
  cases hi : pool.programs[i]? with
  | none => rfl
  | some program =>
    rw [hi] at h
    cases program with
    | done result => rfl
    | ask call next => cases h

theorem moment_succ {i n : Nat} (h : schedule[n]? = some i) :
    pool.moment answer schedule (n + 1)
      = (pool.moment answer schedule n).advance (Program.step answer) i := by
  unfold moment
  rw [List.take_add_one, h, follow_append]
  rfl

/-- **A turn** in which something is asked: it is answered from the state of the
moment, and the state after the answer is that of the next moment. -/
theorem exists_of_asked {i n : Nat} {exchange : Exchange I}
    (h : pool.asked answer schedule i n = some exchange) :
    ∃ call, exchange = ⟨call, ((answer call).run (pool.moment answer schedule n).state).1⟩ ∧
      (pool.moment answer schedule (n + 1)).state
        = ((answer call).run (pool.moment answer schedule n).state).2 := by
  unfold asked at h
  split at h
  · rename_i hturn
    obtain ⟨call, hexchange, hstate⟩ := exists_of_exchange? h
    exact ⟨call, hexchange, by rw [moment_succ hturn, hstate]⟩
  · cases h

/-- The exchanges of a program are what it asks in the turns of the schedule. -/
theorem exchangesOf_history (i : Nat) :
    exchangesOf i (pool.history answer schedule)
      = (List.range schedule.length).filterMap (pool.asked answer schedule i) := by
  induction schedule generalizing pool with
  | nil => rfl
  | cons j rest ih =>
    have hlater : pool.asked answer (j :: rest) i ∘ Nat.succ
        = (pool.advance (Program.step answer) j).asked answer rest i :=
      funext fun n => rfl
    have hfirst : exchangesOf i
          ((pool.exchange? answer j).map fun exchange => (j, exchange)).toList
        = (pool.asked answer (j :: rest) i 0).toList := by
      show _ = (if some j = some i then pool.exchange? answer i else none).toList
      by_cases hij : j = i
      · subst hij
        rw [if_pos rfl]
        cases pool.exchange? answer j <;> simp [exchangesOf]
      · rw [if_neg (by simpa using hij)]
        cases pool.exchange? answer j <;> simp [exchangesOf, hij]
    rw [history, exchangesOf_append, hfirst, ih, List.length_cons, List.range_succ_eq_map,
      List.filterMap_cons, List.filterMap_map, hlater]
    cases pool.asked answer (j :: rest) i 0 <;> rfl

/-- **The history of a program, turn by turn**: what it asked in its turns are its
exchanges of the sort. -/
theorem map_asked_turnsOf (sort : I.Call → Bool) (i : Nat) :
    (pool.turnsOf answer schedule sort i).map (pool.asked answer schedule i)
      = ((exchangesOf i (pool.history answer schedule)).filter (sort ·.call)).map some := by
  rw [exchangesOf_history, turnsOf]
  induction List.range schedule.length with
  | nil => rfl
  | cons n rest ih =>
    cases hasked : pool.asked answer schedule i n with
    | none => simpa [List.filter_cons, List.filterMap_cons, hasked] using ih
    | some exchange =>
      by_cases hsort : sort exchange.call <;>
        simpa [List.filter_cons, List.filterMap_cons, hasked, hsort] using ih

end Pool

/-- **A program that follows a protocol keeps a promise**: to end as expected, where
what is known is what it has noted. Something has to hold of the state, come what
may, that makes it answer as the protocol says. -/
theorem Program.Follows.keeps {interplay : Interplay I σ γ} {protocol : Protocol I γ}
    {holds : σ → Prop} (hstable : ∀ s t, holds s → interplay.Allows s t → holds t)
    (hadmits : ∀ notes s call, holds s → protocol.Allows notes call →
      interplay.Allows s ((interplay.answer call).run s).2 ∧
        protocol.Gives notes call ((interplay.answer call).run s).1
          (interplay.note notes ⟨call, ((interplay.answer call).run s).1⟩))
    {expected : α → γ → Prop} {program : Program I α} {notes : γ}
    (h : program.Follows protocol expected notes) {s : σ} (hs : holds s) :
    program.Keeps interplay ⟨fun _ => True, fun notes result _ => expected result notes⟩
      notes s := by
  induction program generalizing notes s with
  | done result => exact fun _ _ => h
  | ask call next ih =>
    refine ⟨trivial, fun t hst => ?_⟩
    have ht := hstable s t hs hst
    obtain ⟨hallows, hgives⟩ := hadmits notes t call ht h.1
    exact ⟨hallows, ih _ (h.2 _ _ hgives) (hstable t _ ht hallows)⟩

end FeatureGate
