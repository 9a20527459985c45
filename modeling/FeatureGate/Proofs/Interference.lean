import Mathlib.Logic.Basic
import FeatureGate.Pool

/-!
# Programs that interfere

The programs of a pool take turns at one state, so between two requests of one of
them the others may have done anything – within what they all rely on. This
module is about promises that programs keep nevertheless.

A program *keeps* a promise (`Program.Keeps`) if it does so whatever happens to
the state between its requests, as long as each change is one that is relied on,
and if its own requests change the state in such ways only. Then a pool of
programs that each keep a promise keeps all of them, on every schedule
(`Pool.Keeps.follow`): to reason about interleavings, it is enough to look at one
program at a time.

A promise is about what a program has noted of its requests and the replies so
far, and in the end about its result and the state.
-/

namespace FeatureGate

/-- **A request, and the reply to it.** -/
structure Exchange (I : Interface) where
  /-- The request. -/
  call : I.Call
  /-- The reply. -/
  reply : I.Reply call

/-- **How programs get along**: how requests are answered, which changes of the
state everybody relies on, and what is noted of an exchange. -/
structure Interplay (I : Interface) (σ γ : Type) where
  /-- The answers to requests. -/
  answer : (call : I.Call) → StateM σ (I.Reply call)
  /-- A change of the state that is relied on, by one request or many. -/
  Allows (before after : σ) : Prop
  /-- No change is relied on. -/
  refl (s : σ) : Allows s s
  /-- Two changes are no more than one. -/
  trans {s t u : σ} : Allows s t → Allows t u → Allows s u
  /-- The notes of a program after an exchange. -/
  note (notes : γ) (exchange : Exchange I) : γ

/-- **A promise** of a program: what holds of its notes while it goes on, and of
its notes, its result and the state from its end on. -/
structure Promise (α σ γ : Type) where
  /-- What holds while the program goes on. -/
  during (notes : γ) : Prop
  /-- What holds from its end on. -/
  atEnd (notes : γ) (result : α) (state : σ) : Prop

section Interference

variable {I : Interface} {α β σ γ : Type} (interplay : Interplay I σ γ)

namespace Program

/-- **A program keeps a promise**, whatever happens to the state in between, and
changes the state in ways that are relied on. -/
def Keeps (promise : Promise α σ γ) : Program I α → γ → σ → Prop
  | .done result, notes, s => ∀ t, interplay.Allows s t → promise.atEnd notes result t
  | .ask call next, notes, s =>
    promise.during notes ∧ ∀ t, interplay.Allows s t →
      interplay.Allows t ((interplay.answer call).run t).2 ∧
        (next ((interplay.answer call).run t).1).Keeps promise
          (interplay.note notes ⟨call, ((interplay.answer call).run t).1⟩)
          ((interplay.answer call).run t).2

/-- A program that makes requests of some sort only. -/
def Only (sort : I.Call → Prop) : Program I α → Prop
  | .done _ => True
  | .ask call next => sort call ∧ ∀ reply, (next reply).Only sort

variable {interplay} {promise : Promise α σ γ} {notes : γ} {s t : σ}

/-- **Promises are stable**: what others do to the state does not matter. -/
theorem Keeps.of_allows {program : Program I α}
    (h : program.Keeps interplay promise notes s) (hst : interplay.Allows s t) :
    program.Keeps interplay promise notes t := by
  cases program with
  | done result => exact fun u htu => h u (interplay.trans hst htu)
  | ask call next => exact ⟨h.1, fun u htu => h.2 u (interplay.trans hst htu)⟩

/-- What is promised while a program goes on holds at any moment, if it holds at
the end. -/
theorem Keeps.during {program : Program I α}
    (h : program.Keeps interplay promise notes s)
    (hend : ∀ {notes a t}, promise.atEnd notes a t → promise.during notes) :
    promise.during notes := by
  cases program with
  | done a => exact hend (h s (interplay.refl s))
  | ask call next => exact h.1

/-- A program that keeps a promise keeps all that follow from it. -/
theorem Keeps.mono {program : Program I α} {first : Promise α σ γ}
    (h : program.Keeps interplay first notes s)
    (hduring : ∀ notes, first.during notes → promise.during notes)
    (hend : ∀ notes a t, first.atEnd notes a t → promise.atEnd notes a t) :
    program.Keeps interplay promise notes s := by
  induction program generalizing notes s with
  | done a => exact fun t hst => hend notes a t (h t hst)
  | ask call next ih =>
    refine ⟨hduring notes h.1, fun t hst => ?_⟩
    obtain ⟨hallows, hrest⟩ := h.2 t hst
    exact ⟨hallows, ih _ hrest⟩

/-- **One program after another** keeps a promise if the second does, from
wherever the first ends as it promised. -/
theorem Keeps.bind {program : Program I β} {next : β → Program I α} {first : Promise β σ γ}
    (h : program.Keeps interplay first notes s)
    (hduring : ∀ notes, first.during notes → promise.during notes)
    (hend : ∀ notes b t, interplay.Allows s t →
      (Program.done b : Program I β).Keeps interplay first notes t →
      (next b).Keeps interplay promise notes t) :
    (program >>= next).Keeps interplay promise notes s := by
  induction program generalizing notes s with
  | done b => exact hend notes b s (interplay.refl s) h
  | ask call rest ih =>
    refine ⟨hduring notes h.1, fun t hst => ?_⟩
    obtain ⟨hallows, hrest⟩ := h.2 t hst
    exact ⟨hallows, ih _ hrest fun notes b u hu =>
      hend notes b u (interplay.trans (interplay.trans hst hallows) hu)⟩

/-- Every program is one that sends only the requests of a sort that leaves none out. -/
theorem Only.of_forall {sort : I.Call → Prop} (h : ∀ call, sort call)
    (program : Program I α) : program.Only sort := by
  induction program with
  | done result => exact trivial
  | ask call next ih => exact ⟨h call, ih⟩

/-- A program may be asked to promise nothing, if its requests change the state
in ways that are relied on. -/
theorem Only.keeps {program : Program I α} {sort : I.Call → Prop}
    (h : program.Only sort)
    (hsort : ∀ call, sort call → ∀ t, interplay.Allows t ((interplay.answer call).run t).2)
    (notes : γ) (s : σ) :
    program.Keeps interplay ⟨fun _ => True, fun _ _ _ => True⟩ notes s := by
  induction program generalizing notes s with
  | done result => exact fun _ _ => trivial
  | ask call next ih =>
    exact ⟨trivial, fun t _ => ⟨hsort call h.1 t, ih _ (h.2 _) _ _⟩⟩

end Program

namespace Pool

/-- What a program asks next, and what it is answered. -/
def exchange? (answer : (call : I.Call) → StateM σ (I.Reply call)) (pool : Pool I α σ)
    (i : Nat) : Option (Exchange I) :=
  match pool.programs[i]? with
  | some (.ask call _) => some ⟨call, ((answer call).run pool.state).1⟩
  | _ => none

/-- **The history of a schedule**: what was asked and answered, and by which
program. -/
def history (answer : (call : I.Call) → StateM σ (I.Reply call)) :
    List Nat → Pool I α σ → List (Nat × Exchange I)
  | [], _ => []
  | i :: rest, pool =>
    ((pool.exchange? answer i).map fun exchange => (i, exchange)).toList
      ++ history answer rest (pool.advance (Program.step answer) i)

/-- The exchanges of one program. -/
def exchangesOf (i : Nat) (history : List (Nat × Exchange I)) : List (Exchange I) :=
  (history.filter (·.1 = i)).map (·.2)

theorem exchangesOf_append (i : Nat) (first rest : List (Nat × Exchange I)) :
    exchangesOf i (first ++ rest) = exchangesOf i first ++ exchangesOf i rest := by
  simp [exchangesOf]

/-- What is asked in a turn, and what comes of it. -/
theorem exists_of_exchange? {answer : (call : I.Call) → StateM σ (I.Reply call)}
    {pool : Pool I α σ} {i : Nat} {exchange : Exchange I}
    (h : pool.exchange? answer i = some exchange) :
    ∃ call, exchange = ⟨call, ((answer call).run pool.state).1⟩ ∧
      (pool.advance (Program.step answer) i).state = ((answer call).run pool.state).2 := by
  unfold exchange? at h
  unfold advance
  cases hi : pool.programs[i]? with
  | none =>
    rw [hi] at h
    cases h
  | some program =>
    rw [hi] at h
    cases program with
    | done result => cases h
    | ask call next => exact ⟨call, (Option.some.inj h).symm, rfl⟩

theorem length_programs_follow (answer : (call : I.Call) → StateM σ (I.Reply call))
    (pool : Pool I α σ) (schedule : List Nat) :
    (pool.follow answer schedule).programs.length = pool.programs.length := by
  induction schedule generalizing pool with
  | nil => rfl
  | cons i rest ih =>
    show ((pool.advance (Program.step answer) i).follow answer rest).programs.length = _
    rw [ih]
    unfold advance
    split
    · exact List.length_set
    · rfl

theorem follow_append (answer : (call : I.Call) → StateM σ (I.Reply call))
    (pool : Pool I α σ) (first rest : List Nat) :
    pool.follow answer (first ++ rest) = (pool.follow answer first).follow answer rest :=
  List.foldl_append

/-- **Every program of a pool keeps its promise.** -/
def Keeps (promises : Nat → Promise α σ γ) (notes : Nat → γ) (pool : Pool I α σ) : Prop :=
  ∀ i (program : Program I α), pool.programs[i]? = some program →
    program.Keeps interplay (promises i) (notes i) pool.state

variable {interplay} {promises : Nat → Promise α σ γ} {notes : Nat → γ} {pool : Pool I α σ}

/-- **One turn** is relied on by all, and all keep their promises. -/
theorem Keeps.advance (h : pool.Keeps interplay promises notes) (i : Nat) :
    interplay.Allows pool.state (pool.advance (Program.step interplay.answer) i).state ∧
      (pool.advance (Program.step interplay.answer) i).Keeps interplay promises fun j =>
        (exchangesOf j ((pool.exchange? interplay.answer i).map
          fun exchange => (i, exchange)).toList).foldl interplay.note (notes j) := by
  unfold Pool.advance Pool.exchange?
  cases hi : pool.programs[i]? with
  | none => exact ⟨interplay.refl _, by simpa [exchangesOf] using h⟩
  | some program =>
    cases program with
    | done result =>
      -- nothing is left to ask, and the pool stays as it is
      refine ⟨interplay.refl _, fun j program hj => ?_⟩
      obtain ⟨hlt, hget⟩ := List.getElem?_eq_some_iff.mp hi
      change (pool.programs.set i (.done result))[j]? = some program at hj
      rw [← hget, List.set_getElem_self] at hj
      exact h j program hj
    | ask call next =>
      obtain ⟨-, hnext⟩ := h i _ hi
      obtain ⟨hallows, hrest⟩ := hnext pool.state (interplay.refl _)
      refine ⟨hallows, fun j program hj => ?_⟩
      dsimp only [Program.step] at hj ⊢
      rw [List.getElem?_set] at hj
      -- the one whose turn it is goes on, the others see a change they rely on
      by_cases hij : i = j
      · subst hij
        rw [if_pos rfl] at hj
        split at hj
        · rw [← Option.some.inj hj]
          simpa [exchangesOf] using hrest
        · cases hj
      · rw [if_neg hij] at hj
        simpa [exchangesOf, hij] using (h j program hj).of_allows hallows

/-- **Every schedule** is relied on by all, and all keep their promises. -/
theorem Keeps.follow (h : pool.Keeps interplay promises notes) (schedule : List Nat) :
    interplay.Allows pool.state (pool.follow interplay.answer schedule).state ∧
      (pool.follow interplay.answer schedule).Keeps interplay promises fun j =>
        (exchangesOf j (pool.history interplay.answer schedule)).foldl interplay.note
          (notes j) := by
  induction schedule generalizing pool notes with
  | nil => exact ⟨interplay.refl _, h⟩
  | cons i rest ih =>
    obtain ⟨hallows, hkeeps⟩ := h.advance i
    obtain ⟨hallows', hkeeps'⟩ := ih hkeeps
    refine ⟨interplay.trans hallows hallows', fun j program hj => ?_⟩
    unfold history
    dsimp only
    rw [exchangesOf_append, List.foldl_append]
    exact hkeeps' j program hj

end Pool

end Interference

end FeatureGate
