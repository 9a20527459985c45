import FeatureGate.Proofs.Conduct
import FeatureGate.Proofs.Crew
import FeatureGate.Proofs.Interference

/-!
# Transcripts

What a program asks and what it is replied can be written down. A *transcript* is
the list of its exchanges, in order; it can be kept whoever replies
(`transcribing`), and nothing about the replies has to be assumed
(`Protocol.transcript`).

The transcript of one action after another is the one transcript after the other,
so what an action leaves on a transcript can be said as if the transcript began
with it (`Action.Transcribes`), with one rule for each way of putting actions
together. What is said in this way is true of every course that the action takes
(`Action.Transcribes.course`), and of every turn at which it is taken
(`Action.Transcribes.run`).
-/

namespace FeatureGate

variable {I : Interface} {α β σ : Type}

/-- **The protocol of a transcript**: anything may be asked, any reply may come, and
both are written down. -/
def Protocol.transcript (I : Interface) : Protocol I (List (Exchange I)) where
  Allows _ _ := True
  Gives before call reply after := after = before ++ [⟨call, reply⟩]

/-- **What was written down before** makes no difference to what is added. -/
theorem Program.Follows.onward {program : Program I α} {expected : α → List (Exchange I) → Prop}
    {known : List (Exchange I)} (h : program.Follows (.transcript I) expected known)
    (before : List (Exchange I)) :
    program.Follows (.transcript I)
      (fun result after => ∃ rest, after = before ++ rest ∧ expected result rest)
      (before ++ known) := by
  induction program generalizing known with
  | done result => exact ⟨known, rfl, h⟩
  | ask call next ih =>
    refine ⟨trivial, ?_⟩
    rintro reply _ rfl
    rw [List.append_assoc]
    exact ih reply (h.2 reply _ rfl)

namespace Resolver

/-- **The answers to requests, written down.** -/
def transcribing (answer : (request : Request) → StateM σ request.Reply) (request : Request) :
    StateM (σ × List (Exchange interface)) request.Reply := fun s =>
  let replied := (answer request).run s.1
  (replied.1, replied.2, s.2 ++ [⟨request, replied.1⟩])

theorem admits_transcribing (answer : (request : Request) → StateM σ request.Reply) :
    (Protocol.transcript interface).Admits (transcribing answer) fun known s => known = s.2 := by
  rintro _ s request rfl -
  exact ⟨_, rfl, rfl⟩

/-- To write down what is asked changes nothing else. -/
theorem exists_run_transcribing (answer : (request : Request) → StateM σ request.Reply)
    (program : Program interface α) (s : σ) (before : List (Exchange interface)) :
    ∃ rest, (program.interpret (I := interface) (transcribing answer)).run (s, before)
      = (((program.interpret (I := interface) answer).run s).1,
          ((program.interpret (I := interface) answer).run s).2, before ++ rest) := by
  induction program generalizing s before with
  | done result => exact ⟨[], by rw [List.append_nil]; rfl⟩
  | ask request next ih =>
    obtain ⟨rest, hrest⟩ := ih ((answer request).run s).1 ((answer request).run s).2
      (before ++ [⟨request, ((answer request).run s).1⟩])
    refine ⟨⟨request, ((answer request).run s).1⟩ :: rest, ?_⟩
    rw [← List.append_cons] at hrest
    exact hrest

/-- Whether reports reach anybody. -/
def isHeard (resolver : Resolver) : Bool := resolver.config.emitEvents && resolver.hasListener

/-- **The report of an event** on a transcript, if reports reach anybody. -/
def report (resolver : Resolver) (event : Event) : List (Exchange interface) :=
  if resolver.isHeard then [⟨.deliver event, ()⟩] else []

/-- The event that was delivered, if that is what an exchange is about. -/
def deliveredBy? : Exchange interface → Option Event
  | ⟨.deliver event, _⟩ => some event
  | _ => none

/-- **The events delivered**, in order. -/
def delivered (transcript : List (Exchange interface)) : List Event :=
  transcript.filterMap deliveredBy?

@[simp]
theorem delivered_nil : delivered [] = [] := rfl

@[simp]
theorem delivered_append (first rest : List (Exchange interface)) :
    delivered (first ++ rest) = delivered first ++ delivered rest :=
  List.filterMap_append

@[simp]
theorem delivered_cons_store (call : Store.Call) (reply : call.Reply)
    (rest : List (Exchange interface)) :
    delivered (⟨.store call, reply⟩ :: rest) = delivered rest := rfl

@[simp]
theorem delivered_report (resolver : Resolver) (event : Event) :
    delivered (resolver.report event) = if resolver.isHeard then [event] else [] := by
  unfold report
  split <;> rfl

/-- **A transcript of requests of some sort only.** -/
def OnlyAsks (sort : Request → Prop) (transcript : List (Exchange interface)) : Prop :=
  ∀ exchange ∈ transcript, sort exchange.call

namespace OnlyAsks

variable {sort sort' : Request → Prop} {request : Request} {reply : request.Reply}
  {first rest : List (Exchange interface)}

theorem nil : OnlyAsks sort [] := List.forall_mem_nil _

theorem cons (h : sort request) (hrest : OnlyAsks sort rest) :
    OnlyAsks sort (⟨request, reply⟩ :: rest) :=
  List.forall_mem_cons.mpr ⟨h, hrest⟩

theorem append (h : OnlyAsks sort first) (h' : OnlyAsks sort rest) :
    OnlyAsks sort (first ++ rest) :=
  List.forall_mem_append.mpr ⟨h, h'⟩

theorem mono (h : OnlyAsks sort rest) (hsort : ∀ request, sort request → sort' request) :
    OnlyAsks sort' rest :=
  fun exchange hmem => hsort _ (h exchange hmem)

/-- What was delivered was asked to be. -/
theorem of_mem_delivered (h : OnlyAsks sort rest) {event : Event} (hmem : event ∈ delivered rest) :
    sort (.deliver event) := by
  obtain ⟨⟨request, reply⟩, hexchange, hdelivered⟩ := List.mem_filterMap.mp hmem
  have hsort := h _ hexchange
  cases request with
  | deliver event' => exact Option.some.inj hdelivered ▸ hsort
  | _ => cases hdelivered

theorem delivered_eq_nil (h : OnlyAsks sort rest) (hsort : ∀ event, ¬ sort (.deliver event)) :
    delivered rest = [] :=
  List.eq_nil_iff_forall_not_mem.mpr fun event hmem => hsort event (h.of_mem_delivered hmem)

theorem report {resolver : Resolver} {event : Event} (h : sort (.deliver event)) :
    OnlyAsks sort (resolver.report event) := by
  unfold Resolver.report
  split
  · exact cons h nil
  · exact nil

/-- Whoever makes a request of the sort does not leave it. -/
theorem ask (h : sort request) :
    (ask request).Maintains (.transcript interface) fun _ => OnlyAsks sort := by
  refine fun work known hknown => .ask trivial ?_
  rintro reply _ rfl
  exact append hknown (cons h nil)

theorem askStore {call : Store.Call} (h : sort (.store call)) :
    (askStore call).Maintains (.transcript interface) fun _ => OnlyAsks sort := by
  refine fun work known hknown => .askStore trivial ?_
  rintro reply _ rfl
  exact append hknown (cons h nil)

end OnlyAsks

/-- **What comes of an action**, whatever it is replied: the result, the unit of
work after it, and the transcript. -/
structure Course (α : Type) where
  /-- The result. -/
  result : Except FeatureError α
  /-- The unit of work after the action. -/
  work : Work
  /-- What was asked and replied. -/
  transcript : List (Exchange interface)

namespace Action

/-- **The course of an action** from a unit of work on, in a state that answers. -/
def course (action : Action α) (answer : (request : Request) → StateM σ request.Reply)
    (work : Work) (s : σ) : Course α :=
  let ran := ((action.program work).interpret (I := interface) (transcribing answer)).run (s, [])
  ⟨ran.1.1, ran.1.2, ran.2.2⟩

/-- In a world, the course of an action is what comes of performing it. -/
theorem exists_course_eq_perform (store : Store (StateM σ)) (membership : Membership)
    (action : Action α) (s : State σ) :
    ∃ transcript, action.course (World.answer store membership) s.work s.world
      = ⟨(action.perform store membership s).1, (action.perform store membership s).2.work,
          transcript⟩ := by
  obtain ⟨rest, hrun⟩ := exists_run_transcribing (World.answer store membership)
    (action.program s.work) s.world []
  refine ⟨rest, ?_⟩
  unfold course
  rw [hrun]
  rfl

/-- **What an action leaves on a transcript**, from a unit of work on: its result, the
unit of work after it, and what was asked and replied are as expected. -/
def Transcribes (action : Action α) (work : Work)
    (expected : Except FeatureError α → Work → List (Exchange interface) → Prop) : Prop :=
  action.Yields (.transcript interface) work [] expected

namespace Transcribes

variable {action : Action α} {work : Work}
  {expected : Except FeatureError α → Work → List (Exchange interface) → Prop}

/-- An action that is run goes on with the transcript there is, as expected. -/
theorem run (h : action.Transcribes work expected)
    (answer : (request : Request) → StateM σ request.Reply)
    (s : σ × List (Exchange interface)) :
    let ran := ((action.program work).interpret (I := interface) (transcribing answer)).run s
    ∃ rest, ran.2.2 = s.2 ++ rest ∧ expected ran.1.1 ran.1.2 rest := by
  have honward := Program.Follows.onward h s.2
  rw [List.append_nil] at honward
  obtain ⟨_, ⟨rest, hrest, hexpected⟩, rfl⟩ :=
    Program.Follows.run (admits_transcribing answer) honward rfl
  exact ⟨rest, hrest, hexpected⟩

/-- **The course of an action** is as expected. -/
theorem course (h : action.Transcribes work expected)
    (answer : (request : Request) → StateM σ request.Reply) (s : σ) :
    expected (action.course answer work s).result (action.course answer work s).work
      (action.course answer work s).transcript := by
  obtain ⟨_, rfl, hexpected⟩ := h.run answer (s, [])
  exact hexpected

theorem mono {expected' : Except FeatureError α → Work → List (Exchange interface) → Prop}
    (h : action.Transcribes work expected)
    (hexpected : ∀ result after transcript, expected result after transcript →
      expected' result after transcript) :
    action.Transcribes work expected' :=
  Yields.mono h hexpected

theorem pure {a : α} (h : expected (.ok a) work []) :
    (Pure.pure a : Action α).Transcribes work expected := h

theorem throw {e : FeatureError} (h : expected (.error e) work []) :
    (MonadExcept.throw e : Action α).Transcribes work expected := h

/-- An action that goes on from a transcript adds to it what it would leave behind. -/
theorem onward (before : List (Exchange interface))
    (h : action.Transcribes work fun result after rest =>
      expected result after (before ++ rest)) :
    action.Yields (.transcript interface) work before expected := by
  have honward := Program.Follows.onward h before
  rw [List.append_nil] at honward
  refine Program.Follows.mono honward ?_
  rintro outcome _ ⟨rest, rfl, hexpected⟩
  exact hexpected

/-- **One action after another** leaves the one transcript after the other. -/
theorem bind {first : Action β} {next : β → Action α}
    {middle : Except FeatureError β → Work → List (Exchange interface) → Prop}
    (h : first.Transcribes work middle)
    (hok : ∀ b after before, middle (.ok b) after before →
      (next b).Transcribes after fun result last rest => expected result last (before ++ rest))
    (herror : ∀ e after before, middle (.error e) after before →
      expected (.error e) after before) :
    (first >>= next).Transcribes work expected :=
  Yields.bind h (fun b after before hmiddle => onward before (hok b after before hmiddle)) herror

theorem get_bind {next : Work → Action α} (h : (next work).Transcribes work expected) :
    (get >>= next).Transcribes work expected := h

theorem modify_bind {f : Work → Work} {next : PUnit → Action α}
    (h : (next ⟨⟩).Transcribes (f work) expected) :
    (modify f >>= next).Transcribes work expected := h

theorem contextKey_bind {resolver : Resolver} {context : Context} {next : String → Action α}
    (h : (next (resolver.keyUnder work.ambient context)).Transcribes work expected) :
    (resolver.contextKey context >>= next).Transcribes work expected := h

/-- Whoever asks goes on with any reply, which is written down. -/
theorem ask_bind {request : Request} {next : request.Reply → Action α}
    (h : ∀ reply, (next reply).Transcribes work fun result after rest =>
      expected result after (⟨request, reply⟩ :: rest)) :
    (ask request >>= next).Transcribes work expected := by
  refine Yields.ask_bind trivial ?_
  rintro reply _ rfl
  exact onward _ (h reply)

/-- **Whoever calls the store** goes on with its answer, or fails as the store does. -/
theorem askStore_bind {call : Store.Call} {next : call.Answer → Action α}
    (hok : ∀ answer, (next answer).Transcribes work fun result after rest =>
      expected result after (⟨.store call, (.ok answer : call.Reply)⟩ :: rest))
    (herror : ∀ error, expected (.error (.store error)) work
      [⟨.store call, (.error error : call.Reply)⟩]) :
    (askStore call >>= next).Transcribes work expected := by
  have hcall : (askStore call).Transcribes work fun result after before =>
      ∃ reply : call.Reply, result = reply.mapError .store ∧ after = work
        ∧ before = [⟨.store call, reply⟩] := by
    refine Yields.askStore trivial ?_
    rintro reply _ rfl
    exact ⟨reply, rfl, rfl, rfl⟩
  refine bind hcall ?_ ?_
  · rintro answer _ _ ⟨reply, hanswer, rfl, rfl⟩
    cases reply with
    | error error => cases hanswer
    | ok reply =>
      cases hanswer
      exact hok answer
  · rintro error _ _ ⟨reply, hfailed, rfl, rfl⟩
    cases reply with
    | ok reply => cases hfailed
    | error error =>
      cases hfailed
      exact herror error

theorem emit {resolver : Resolver} {event : Event}
    {expected : Except FeatureError Unit → Work → List (Exchange interface) → Prop}
    (h : expected (.ok ()) work (resolver.report event)) :
    (resolver.emit event).Transcribes work expected := by
  show (if resolver.isHeard then ask (.deliver event) else Pure.pure () : Action Unit).Transcribes
    work expected
  unfold report at h
  cases hheard : resolver.isHeard with
  | true =>
    rw [if_pos rfl]
    rw [if_pos hheard] at h
    refine Yields.ask trivial ?_
    rintro _ _ rfl
    exact h
  | false =>
    rw [if_neg Bool.false_ne_true]
    rw [if_neg (by rw [hheard]; exact Bool.false_ne_true)] at h
    exact h

/-- A report does not fail, so whoever makes one goes on. -/
theorem emit_bind {resolver : Resolver} {event : Event} {next : PUnit → Action α}
    (h : (next ⟨⟩).Transcribes work fun result after rest =>
      expected result after (resolver.report event ++ rest)) :
    (resolver.emit event >>= next).Transcribes work expected := by
  have hemit : (resolver.emit event).Transcribes work fun result after before =>
      result = .ok () ∧ after = work ∧ before = resolver.report event :=
    emit ⟨rfl, rfl, rfl⟩
  refine bind hemit ?_ ?_
  · rintro _ _ _ ⟨-, rfl, rfl⟩
    exact h
  · rintro _ _ _ ⟨⟨⟩, -⟩

/-- What comes out of an action is what it leaves behind. -/
theorem attempt {expected : Except FeatureError (Except FeatureError α) → Work →
      List (Exchange interface) → Prop}
    (h : action.Transcribes work fun result => expected (.ok result)) :
    (Resolver.attempt action).Transcribes work expected :=
  Yields.attempt h

/-- **One action after another that is attempted**: its failure ends nothing. -/
theorem attempt_bind {first : Action β} {next : Except FeatureError β → Action α}
    {middle : Except FeatureError β → Work → List (Exchange interface) → Prop}
    (h : first.Transcribes work middle)
    (hnext : ∀ outcome after before, middle outcome after before →
      (next outcome).Transcribes after fun result last rest =>
        expected result last (before ++ rest)) :
    (Resolver.attempt first >>= next).Transcribes work expected := by
  have hattempt : (Resolver.attempt first).Transcribes work fun result after before =>
      ∃ outcome, result = .ok outcome ∧ middle outcome after before :=
    attempt (h.mono fun outcome _ _ hmiddle => ⟨outcome, rfl, hmiddle⟩)
  refine bind hattempt ?_ ?_
  · rintro _ after before ⟨outcome, ⟨⟩, hmiddle⟩
    exact hnext _ after before hmiddle
  · rintro _ _ _ ⟨_, ⟨⟩, -⟩

end Transcribes

end Action

end Resolver

end FeatureGate
