import FeatureGate.Proofs.Protocol

/-!
# Programs that are watched

Some of what a program does cannot be seen from what it asks: which of its calls are
in progress, or what it keeps to itself in between. To speak of it, the program is
written once more with *marks* set in it, which tell an onlooker something and have
no reply.

Leaving the marks out gives a program without them (`Program.unwatched`), and that
this is the program one started from is how marks are justified. What an onlooker
may rely on is a protocol over requests and marks, as for any other program.
-/

namespace FeatureGate

/-- **An interface that is watched**: besides the questions there are marks. -/
abbrev Interface.watched (I : Interface) (Mark : Type) : Interface where
  Call := I.Call ⊕ Mark
  Reply := Sum.elim I.Reply fun _ => Unit

variable {I : Interface} {Mark α β γ δ : Type}

namespace Program

/-- Set a mark. -/
def mark (m : Mark) : Program (I.watched Mark) Unit := .ask (.inr m) .done

/-- A program without marks, of which all questions are seen. -/
def watched : Program I α → Program (I.watched Mark) α
  | .done result => .done result
  | .ask call next => .ask (.inl call) fun reply => (next reply).watched

/-- **What is left of a program without its marks.** -/
def unwatched : Program (I.watched Mark) α → Program I α
  | .done result => .done result
  | .ask (.inl call) next => .ask call fun reply => (next reply).unwatched
  | .ask (.inr _) next => (next ()).unwatched

@[simp] theorem unwatched_mark_bind (m : Mark) (f : Unit → Program (I.watched Mark) α) :
    (mark m >>= f).unwatched = (f ()).unwatched := rfl

@[simp] theorem unwatched_watched (program : Program I α) :
    (program.watched : Program (I.watched Mark) α).unwatched = program := by
  induction program with
  | done result => rfl
  | ask call next ih => exact congrArg (Program.ask call) (funext ih)

/-- Marks are left out of one program after another. -/
@[simp] theorem unwatched_bind (program : Program (I.watched Mark) α)
    (f : α → Program (I.watched Mark) β) :
    (program >>= f).unwatched = program.unwatched >>= fun a => (f a).unwatched := by
  induction program with
  | done result => rfl
  | ask call next ih =>
    cases call with
    | inl call => exact congrArg (Program.ask call) (funext ih)
    | inr m => exact ih ()

namespace Follows

variable {protocol : Protocol I Unit} {watching : Protocol (I.watched Mark) δ}
  {expected : α → Unit → Prop} {program : Program I α} {seen : δ}

/-- Whoever sets a mark goes on with what is known after it. -/
theorem mark_bind {m : Mark} {next : Unit → Program (I.watched Mark) α}
    {expected : α → δ → Prop} (hallows : watching.Allows seen (.inr m))
    (h : ∀ after, watching.Gives seen (.inr m) () after →
      (next ()).Follows watching expected after) :
    (mark m >>= next).Follows watching expected seen :=
  ⟨hallows, fun _ => h⟩

/-- **A program without marks that follows a protocol**, watched by somebody to whom
its questions tell nothing. -/
theorem watched
    (hallows : ∀ call, protocol.Allows () call → watching.Allows seen (.inl call))
    (hgives : ∀ call reply after, watching.Gives seen (.inl call) reply after →
      protocol.Gives () call reply () ∧ after = seen)
    (h : program.Follows protocol expected ()) :
    program.watched.Follows watching (fun result after => expected result () ∧ after = seen)
      seen := by
  induction program with
  | done result => exact ⟨h, rfl⟩
  | ask call next ih =>
    refine ⟨hallows call h.1, fun reply after hgiven => ?_⟩
    obtain ⟨hreply, rfl⟩ := hgives call reply after hgiven
    exact ih reply (h.2 reply () hreply)

end Follows

/-- **A protocol seen through what one cares to know**: whoever follows the finer
protocol follows the coarser one. -/
theorem Follows.coarsen (view : γ → δ) {protocol : Protocol I γ} {coarse : Protocol I δ}
    (hallows : ∀ known call, protocol.Allows known call → coarse.Allows (view known) call)
    (hgives : ∀ known call reply after, coarse.Gives (view known) call reply after →
      ∃ finer, protocol.Gives known call reply finer ∧ view finer = after)
    {expected : α → γ → Prop} {program : Program I α} {known : γ}
    (h : program.Follows protocol expected known) :
    program.Follows coarse (fun result after => ∃ known, view known = after ∧
      expected result known) (view known) := by
  induction program generalizing known with
  | done result => exact ⟨known, rfl, h⟩
  | ask call next ih =>
    refine ⟨hallows known call h.1, fun reply after hgiven => ?_⟩
    obtain ⟨finer, hfiner, rfl⟩ := hgives known call reply after hgiven
    exact ih reply (h.2 reply finer hfiner)

/-- **One program after another comes to the same** with programs that agree on what
the first may end with, under a protocol that rules out no reply. -/
theorem Follows.bind_congr {protocol : Protocol I γ}
    (hany : ∀ known call reply, ∃ after, protocol.Gives known call reply after)
    {expected : α → γ → Prop} {program : Program I α} {known : γ}
    (h : program.Follows protocol expected known) {f g : α → Program I β}
    (hfg : ∀ result after, expected result after → f result = g result) :
    program >>= f = program >>= g := by
  induction program generalizing known with
  | done result => exact hfg result known h
  | ask call next ih =>
    refine congrArg (Program.ask call) (funext fun reply => ?_)
    obtain ⟨after, hgiven⟩ := hany known call reply
    exact ih reply (h.2 reply after hgiven)

end Program

end FeatureGate
