import Mathlib.Logic.Basic
import FeatureGate.Program

/-!
# Programs that follow a protocol

What a program asks, and what it ends with, can be said without saying who
answers. A *protocol* states which requests may be made, and which replies may
come to them, in terms of what is known so far; what is known may be the rows of
a store, the history of what was asked, or nothing at all.

A program *follows* a protocol (`Program.Follows`) if it makes none but the
requests that may be made, whatever the replies are, as long as they may come,
and if in the end something holds of its result and of what is known then. That
this carries over to runs, against any state that answers as the protocol says,
is `Program.Follows.run`.
-/

namespace FeatureGate

/-- **A protocol**: what may be asked and answered, by what is known so far. -/
structure Protocol (I : Interface) (γ : Type) where
  /-- Whether a request may be made. -/
  Allows (known : γ) (call : I.Call) : Prop
  /-- Whether a reply may come to a request, and what is known after it. -/
  Gives (known : γ) (call : I.Call) (reply : I.Reply call) (after : γ) : Prop

variable {I : Interface} {α β σ γ : Type}

/-- **A program follows a protocol**, and ends with what is expected. -/
def Program.Follows (protocol : Protocol I γ) (expected : α → γ → Prop) :
    Program I α → γ → Prop
  | .done result, known => expected result known
  | .ask call next, known =>
    protocol.Allows known call ∧ ∀ reply after, protocol.Gives known call reply after →
      (next reply).Follows protocol expected after

/-- **What a program may come to** under a protocol: its result, and what is known then,
along some replies that may come. -/
inductive Program.Comes (protocol : Protocol I γ) : Program I α → γ → α → γ → Prop
  /-- A program that is done has its result. -/
  | done {result : α} {known : γ} : Comes protocol (.done result) known result known
  /-- A program that asks goes on with a reply that may come. -/
  | ask {call : I.Call} {next : I.Reply call → Program I α} {reply : I.Reply call} {result : α}
    {known middle after : γ} : protocol.Gives known call reply middle →
    Comes protocol (next reply) middle result after →
    Comes protocol (.ask call next) known result after

/-- **A state answers as a protocol says**, wherever what is known is true of
it. -/
def Protocol.Admits (protocol : Protocol I γ) (answer : (call : I.Call) → StateM σ (I.Reply call))
    (IsTrue : γ → σ → Prop) : Prop :=
  ∀ known s call, IsTrue known s → protocol.Allows known call →
    ∃ after, protocol.Gives known call ((answer call).run s).1 after
      ∧ IsTrue after ((answer call).run s).2

/-- Whoever asks goes on with the reply. -/
theorem Program.run_interpret_ask (answer : (call : I.Call) → StateM σ (I.Reply call))
    (call : I.Call) (next : I.Reply call → Program I α) (s : σ) :
    ((Program.ask call next).interpret answer).run s
      = ((next ((answer call).run s).1).interpret answer).run ((answer call).run s).2 := rfl

namespace Program.Follows

variable {protocol : Protocol I γ} {expected : α → γ → Prop} {program : Program I α}
  {known : γ}

theorem mono (h : program.Follows protocol expected known) {expected' : α → γ → Prop}
    (hexpected : ∀ result after, expected result after → expected' result after) :
    program.Follows protocol expected' known := by
  induction program generalizing known with
  | done result => exact hexpected result known h
  | ask call next ih => exact ⟨h.1, fun reply after hgives => ih reply (h.2 reply after hgives)⟩

/-- **One program after another** follows a protocol if the second does, from
wherever the first ends as expected. -/
theorem bind {middle : β → γ → Prop} {first : Program I β} {next : β → Program I α}
    (h : first.Follows protocol middle known)
    (hnext : ∀ result after, middle result after → (next result).Follows protocol expected after) :
    (first >>= next).Follows protocol expected known := by
  induction first generalizing known with
  | done result => exact hnext result known h
  | ask call rest ih =>
    exact ⟨h.1, fun reply after hgives => ih reply (h.2 reply after hgives)⟩

/-- **What a program ends with** it has come to. -/
theorem comes (h : program.Follows protocol expected known) :
    program.Follows protocol
      (fun result after => expected result after ∧ program.Comes protocol known result after)
      known := by
  induction program generalizing known with
  | done result => exact ⟨h, .done⟩
  | ask call next ih =>
    exact ⟨h.1, fun reply after hgives => (ih reply (h.2 reply after hgives)).mono
      fun _ _ ⟨hexpected, hcomes⟩ => ⟨hexpected, .ask hgives hcomes⟩⟩

/-- **A run** of a program that follows a protocol ends with what is expected, if
the state answers as the protocol says. -/
theorem run {answer : (call : I.Call) → StateM σ (I.Reply call)} {IsTrue : γ → σ → Prop}
    (hadmits : protocol.Admits answer IsTrue) (h : program.Follows protocol expected known)
    {s : σ} (htrue : IsTrue known s) :
    ∃ after, expected ((program.interpret answer).run s).1 after
      ∧ IsTrue after ((program.interpret answer).run s).2 := by
  -- on the program: what is known and the state go on together with each reply
  induction program generalizing known s with
  | done result => exact ⟨known, h, htrue⟩
  | ask call next ih =>
    obtain ⟨after, hgives, hafter⟩ := hadmits known s call htrue h.1
    exact ih _ (h.2 _ after hgives) hafter

/-- **Two runs** of a program come to the same, in states that answer allowed
requests alike and stay alike. -/
theorem run_eq_run {answer : (call : I.Call) → StateM σ (I.Reply call)}
    {IsTrue : γ → σ → Prop} {Alike : σ → σ → Prop} (hadmits : protocol.Admits answer IsTrue)
    (halike : ∀ known s t call, protocol.Allows known call → Alike s t →
      ((answer call).run s).1 = ((answer call).run t).1
        ∧ Alike ((answer call).run s).2 ((answer call).run t).2)
    (h : program.Follows protocol expected known) {s t : σ} (htrue : IsTrue known s)
    (hst : Alike s t) :
    ((program.interpret answer).run s).1 = ((program.interpret answer).run t).1
      ∧ Alike ((program.interpret answer).run s).2 ((program.interpret answer).run t).2 := by
  induction program generalizing known s t with
  | done result => exact ⟨rfl, hst⟩
  | ask call next ih =>
    obtain ⟨after, hgives, hafter⟩ := hadmits known s call htrue h.1
    obtain ⟨hreply, hst'⟩ := halike known s t call h.1 hst
    -- the reply is the same, so both runs go on with the same program
    rw [run_interpret_ask, run_interpret_ask, ← hreply]
    exact ih _ (h.2 _ after hgives) hafter hst'

end Program.Follows

end FeatureGate
