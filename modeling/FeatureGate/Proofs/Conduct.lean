import FeatureGate.Proofs.Protocol
import FeatureGate.Proofs.Running
import FeatureGate.Resolver.Load

/-!
# What operations maintain, whatever they are told

An operation of a resolver follows a protocol as its program does. What it comes
to is stated of its result, of the unit of work and of what is known by then
(`Action.Yields`), with one rule for each way of putting operations together.

Most of what is said of reads is an *invariant*: a property of the unit of work
and of what is known that an operation maintains (`Action.Maintains`). To show
that all reads maintain it, it is enough to look at the resolution of one open
feature, as long as the invariant has nothing to do with frames in flight,
reports and the clock (`Tolerant`).
-/

namespace FeatureGate

/-- A request on the side: for the time, or to report. -/
def Request.IsAside : Request → Prop
  | .clock | .deliver _ | .warn _ => True
  | _ => False

/-- A request that is no report of a cycle. -/
def Request.IsPlain : Request → Prop
  | .deliver (.cycleDetected ..) => False
  | _ => True

/-- A report of what becomes of an open feature, for a context key. -/
def Request.IsReportOf (feature key : String) : Request → Prop
  | .warn (.concurrentFirstWrite f k) => f = feature ∧ k = key
  | .deliver (.resolved f k _) | .deliver (.unknownFeatureResolved f k)
  | .deliver (.raceRetried f k) => f = feature ∧ k = key
  | _ => False

theorem Request.IsReportOf.isAside {feature key : String} {request : Request}
    (h : request.IsReportOf feature key) : request.IsAside := by
  cases request with
  | deliver | warn => trivial
  | _ => exact h.elim

theorem Request.IsReportOf.isPlain {feature key : String} {request : Request}
    (h : request.IsReportOf feature key) : request.IsPlain := by
  cases request with
  | deliver event =>
    cases event with
    | cycleDetected => exact h.elim
    | _ => trivial
  | _ => trivial

namespace Resolver

variable {α β γ σ : Type} {protocol : Protocol interface γ}

namespace Action

/-- **What an action yields** under a protocol, from a unit of work on and from
what is known then. -/
def Yields (protocol : Protocol interface γ) (action : Action α) (work : Work) (known : γ)
    (expected : Except FeatureError α → Work → γ → Prop) : Prop :=
  (action.program work).Follows protocol
    (fun outcome after => expected outcome.1 outcome.2 after) known

namespace Yields

variable {action : Action α} {work : Work} {known : γ}
  {expected : Except FeatureError α → Work → γ → Prop}

theorem mono {expected' : Except FeatureError α → Work → γ → Prop}
    (h : action.Yields protocol work known expected)
    (hexpected : ∀ result after known, expected result after known →
      expected' result after known) :
    action.Yields protocol work known expected' :=
  Program.Follows.mono h fun outcome => hexpected outcome.1 outcome.2

theorem pure {a : α} (h : expected (.ok a) work known) :
    (Pure.pure a : Action α).Yields protocol work known expected := h

theorem throw {e : FeatureError} (h : expected (.error e) work known) :
    (MonadExcept.throw e : Action α).Yields protocol work known expected := h

/-- **One action after another**: the second goes on from wherever the first
succeeds. -/
theorem bind {first : Action β} {next : β → Action α}
    {middle : Except FeatureError β → Work → γ → Prop}
    (h : first.Yields protocol work known middle)
    (hok : ∀ b after known, middle (.ok b) after known →
      (next b).Yields protocol after known expected)
    (herror : ∀ e after known, middle (.error e) after known →
      expected (.error e) after known) :
    (first >>= next).Yields protocol work known expected := by
  unfold Yields
  rw [program_bind]
  refine Program.Follows.bind h ?_
  rintro ⟨result, after⟩ known hmiddle
  cases result with
  | ok b => exact hok b after known hmiddle
  | error e => exact herror e after known hmiddle

theorem get_bind {next : Work → Action α}
    (h : (next work).Yields protocol work known expected) :
    (get >>= next).Yields protocol work known expected := h

theorem modify_bind {f : Work → Work} {next : PUnit → Action α}
    (h : (next ⟨⟩).Yields protocol (f work) known expected) :
    (modify f >>= next).Yields protocol work known expected := h

theorem contextKey_bind {resolver : Resolver} {context : Context} {next : String → Action α}
    (h : (next (resolver.keyUnder work.ambient context)).Yields protocol work known expected) :
    (resolver.contextKey context >>= next).Yields protocol work known expected := h

/-- Whoever asks goes on with any reply that may come. -/
theorem ask_bind {request : Request} {next : request.Reply → Action α}
    (hallows : protocol.Allows known request)
    (h : ∀ reply after, protocol.Gives known request reply after →
      (next reply).Yields protocol work after expected) :
    (ask request >>= next).Yields protocol work known expected :=
  ⟨hallows, h⟩

theorem ask {request : Request} {expected : Except FeatureError request.Reply → Work → γ → Prop}
    (hallows : protocol.Allows known request)
    (h : ∀ reply after, protocol.Gives known request reply after →
      expected (.ok reply) work after) :
    (Resolver.ask request).Yields protocol work known expected :=
  ⟨hallows, h⟩

/-- A call of the store gives its answer, or fails as the store does. -/
theorem askStore {call : Store.Call}
    {expected : Except FeatureError call.Answer → Work → γ → Prop}
    (hallows : protocol.Allows known (.store call))
    (h : ∀ reply after, protocol.Gives known (.store call) reply after →
      expected (reply.mapError .store) work after) :
    (Resolver.askStore call).Yields protocol work known expected := by
  refine ask_bind hallows fun reply after hgives => ?_
  have hexpected := h reply after hgives
  cases reply with
  | ok answer => exact hexpected
  | error error => exact hexpected

theorem attempt {expected : Except FeatureError (Except FeatureError α) → Work → γ → Prop}
    (h : action.Yields protocol work known fun result => expected (.ok result)) :
    (Resolver.attempt action).Yields protocol work known expected := by
  unfold Yields
  rw [program_attempt]
  exact Program.Follows.bind h fun _ _ hexpected => hexpected

theorem ofExcept {outcome : Except FeatureError α} (h : expected outcome work known) :
    (Resolver.ofExcept outcome).Yields protocol work known expected := by
  cases outcome <;> exact h

/-- **What an action yields**, it comes to in a state that answers as the protocol says, if the
state tells what is known. -/
theorem run {answer : (request : Request) → StateM σ request.Reply} {told : σ → γ}
    (hadmits : protocol.Admits answer fun known s => known = told s) {s : σ}
    (h : action.Yields protocol work (told s) expected) :
    let ran := ((action.program work).interpret (I := interface) answer).run s
    expected ran.1.1 ran.1.2 (told ran.2) := by
  obtain ⟨_, hexpected, rfl⟩ := Program.Follows.run hadmits h rfl
  exact hexpected

end Yields

/-! ## Invariants -/

/-- **An action maintains an invariant** of the unit of work and of what is known. -/
def Maintains (protocol : Protocol interface γ) (inv : Work → γ → Prop) (action : Action α) :
    Prop :=
  ∀ work known, inv work known →
    action.Yields protocol work known fun _ after known => inv after known

end Action

/-- **An invariant that has nothing to do with frames in flight**, and that
requests on the side do not touch. -/
structure Tolerant (protocol : Protocol interface γ) (inv : Work → γ → Prop) : Prop where
  /-- Any frames may be in flight. -/
  guard {work : Work} {known : γ} (guard : Guard) :
    inv work known → inv { work with guard } known
  /-- Requests on the side are allowed. -/
  allows {work : Work} {known : γ} {request : Request} :
    inv work known → request.IsAside → protocol.Allows known request
  /-- Whatever the reply to them is, the invariant holds. -/
  gives {work : Work} {known after : γ} (request : Request) {reply : request.Reply} :
    inv work known → request.IsAside → protocol.Gives known request reply after →
    inv work after

/-- A report does not fail, so whoever makes one goes on under the invariant. -/
theorem Tolerant.emit_bind {inv : Work → γ → Prop} (h : Tolerant protocol inv)
    {resolver : Resolver} {event : Event} {next : PUnit → Action α} {work : Work} {known : γ}
    {expected : Except FeatureError α → Work → γ → Prop} (hinv : inv work known)
    (hnext : ∀ after, inv work after → (next ⟨⟩).Yields protocol work after expected) :
    (resolver.emit event >>= next).Yields protocol work known expected := by
  unfold Resolver.emit
  split
  · exact .ask_bind (h.allows hinv trivial) fun _ after hgives =>
      hnext after (h.gives (.deliver event) hinv trivial hgives)
  · exact hnext known hinv

namespace Action.Maintains

variable {inv : Work → γ → Prop}

/-! ## Putting actions together -/

theorem pure (a : α) : (Pure.pure a : Action α).Maintains protocol inv :=
  fun _ _ h => .pure h

theorem throw (e : FeatureError) : (MonadExcept.throw e : Action α).Maintains protocol inv :=
  fun _ _ h => .throw h

theorem bind {first : Action β} {next : β → Action α} (hfirst : first.Maintains protocol inv)
    (hnext : ∀ b, (next b).Maintains protocol inv) :
    (first >>= next).Maintains protocol inv :=
  fun work known h => (hfirst work known h).bind (fun b => hnext b) fun _ _ _ h => h

/-- Whoever looks at the unit of work finds the invariant true of it. -/
theorem get_bind {next : Work → Action α}
    (hnext : ∀ work known, inv work known → (next work).Maintains protocol inv) :
    (get >>= next).Maintains protocol inv :=
  fun work known h => hnext work known h work known h

theorem contextKey_bind {resolver : Resolver} {context : Context} {next : String → Action α}
    (hnext : ∀ key, (next key).Maintains protocol inv) :
    (resolver.contextKey context >>= next).Maintains protocol inv :=
  fun work known h => .contextKey_bind (hnext _ work known h)

theorem modify {f : Work → Work} (h : ∀ work known, inv work known → inv (f work) known) :
    (modify f : Action PUnit).Maintains protocol inv :=
  fun work known => h work known

theorem ite {c : Prop} [Decidable c] {first second : Action α}
    (hfirst : first.Maintains protocol inv) (hsecond : second.Maintains protocol inv) :
    (if c then first else second).Maintains protocol inv := by
  split
  · exact hfirst
  · exact hsecond

theorem attempt {action : Action α} (h : action.Maintains protocol inv) :
    (Resolver.attempt action).Maintains protocol inv :=
  fun work known hinv => .attempt (h work known hinv)

theorem ofExcept (outcome : Except FeatureError α) :
    (Resolver.ofExcept outcome).Maintains protocol inv :=
  fun _ _ hinv => .ofExcept hinv

theorem mapM {δ : Type} {action : δ → Action α} {list : List δ}
    (h : ∀ a ∈ list, (action a).Maintains protocol inv) :
    (list.mapM action).Maintains protocol inv := by
  induction list with
  | nil => exact pure _
  | cons a rest ih =>
    rw [List.mapM_cons]
    exact bind (h a List.mem_cons_self) fun _ =>
      bind (ih fun b hb => h b (List.mem_cons_of_mem a hb)) fun _ => pure _

theorem forM {δ : Type} {action : δ → Action PUnit} {list : List δ}
    (h : ∀ a ∈ list, (action a).Maintains protocol inv) :
    (list.forM action).Maintains protocol inv := by
  induction list with
  | nil => exact pure _
  | cons a rest ih =>
    show (action a >>= fun _ => rest.forM action).Maintains protocol inv
    exact bind (h a List.mem_cons_self) fun _ => ih fun b hb => h b (List.mem_cons_of_mem a hb)

variable {resolver : Resolver}

/-! ## Requests on the side, and frames -/

/-- Whether anybody is told or not: to maintain an invariant it is enough that telling does. -/
theorem emit_of_ask {event : Event} (h : (ask (.deliver event)).Maintains protocol inv) :
    (resolver.emit event).Maintains protocol inv := by
  unfold Resolver.emit
  exact ite h (pure _)

section Tolerant

variable (htolerant : Tolerant protocol inv)
include htolerant

theorem aside (request : Request) (haside : request.IsAside) :
    (ask request).Maintains protocol inv :=
  fun _ _ h => .ask (htolerant.allows h haside) fun _ _ hgives =>
    htolerant.gives request h haside hgives

theorem emit (event : Event) : (resolver.emit event).Maintains protocol inv :=
  emit_of_ask (aside htolerant (.deliver event) trivial)

theorem enter (frame : String) : (enter frame).Maintains protocol inv := by
  unfold Resolver.enter
  refine get_bind fun work _ _ => ?_
  split
  · exact bind (modify fun _ _ => htolerant.guard _) fun _ => pure _
  · exact pure _

theorem leave : leave.Maintains protocol inv :=
  modify fun _ _ => htolerant.guard _

/-! ## Resolution -/

variable {context : Context} {again : String → Context → Action FeatureValue}

omit htolerant in
theorem allOpen {required : List String}
    (hagain : ∀ r ∈ required, (again r context).Maintains protocol inv) :
    (allOpen again context required).Maintains protocol inv := by
  induction required with
  | nil => exact pure true
  | cons r rest ih =>
    unfold Resolver.allOpen
    exact bind (hagain r List.mem_cons_self) fun value =>
      ite (ih fun r hr => hagain r (List.mem_cons_of_mem _ hr)) (pure false)

theorem gateOpen {definition : Definition}
    (hagain : ∀ r ∈ definition.required, (again r context).Maintains protocol inv)
    (feature key : String) :
    (resolver.gateOpen again definition feature context key).Maintains protocol inv := by
  unfold Resolver.gateOpen
  refine bind (aside htolerant .clock trivial) fun now =>
    ite (pure false) (ite (pure true) (bind (enter htolerant _) fun entered => ite ?_ ?_))
  · exact bind (attempt (allOpen hagain)) fun outcome =>
      bind (leave htolerant) fun _ => ofExcept outcome
  · exact bind (aside htolerant (.warn _) trivial) fun _ =>
      get_bind fun _ _ _ => bind (emit htolerant _) fun _ => pure false

end Tolerant

section Groups

variable {feature : String}
  (hfeatures : ∀ group, (ask (.featuresIn group)).Maintains protocol inv)
  (hget : ∀ key, (askStore (.get feature key)).Maintains protocol inv)
include hfeatures hget

theorem firstGroupValue (groups : List String) :
    (resolver.firstGroupValue feature groups).Maintains protocol inv := by
  induction groups with
  | nil => exact .pure none
  | cons group rest ih =>
    unfold Resolver.firstGroupValue
    refine .bind (hfeatures group) fun reply => ?_
    cases reply with
    | error e => exact .throw e
    | ok features =>
      refine .ite (fun work known h => .contextKey_bind ?_) ih
      refine Maintains.bind (hget _) (fun row => ?_) work known h
      cases row with
      | none => exact ih
      | some payload => exact .ite (.pure _) ih

/-- **Asking the groups for a value** maintains an invariant if asking for their
features and reading their rows does. -/
theorem groupValue (key : String) (hgroups : (ask (.groupsFor key)).Maintains protocol inv) :
    (resolver.groupValue feature key).Maintains protocol inv := by
  unfold Resolver.groupValue
  refine .ite (.bind hgroups fun reply => ?_) (.pure none)
  cases reply with
  | error e => exact .throw e
  | ok groups => exact firstGroupValue hfeatures hget groups

end Groups

/-- **An invariant that all there is to do for an open feature maintains**, for one
context key. -/
structure Serves (protocol : Protocol interface γ) (inv : Work → γ → Prop) (resolver : Resolver)
    (feature key : String) : Prop where
  /-- The row may be read. -/
  get : (askStore (.get feature key)).Maintains protocol inv
  /-- It may be written for the first time. -/
  insert (payload : Payload) : (askStore (.insert feature key payload)).Maintains protocol inv
  /-- A closure may be asked for the first payload. -/
  compute (closure : Closure) (context : Context) :
    (ask (.compute closure context)).Maintains protocol inv
  /-- Groups may be asked for a value. -/
  inherit : (resolver.groupValue feature key).Maintains protocol inv
  /-- A value may be kept. -/
  keep (value : FeatureValue) : (modifyCache (·.put feature key value)).Maintains protocol inv
  /-- What becomes of the feature may be reported. -/
  report (request : Request) :
    request.IsReportOf feature key → (ask request).Maintains protocol inv

namespace Serves

variable {context : Context} {feature key : String}

theorem emit (h : Serves protocol inv resolver feature key) {event : Event}
    (hreport : (Request.deliver event).IsReportOf feature key) :
    (resolver.emit event).Maintains protocol inv :=
  emit_of_ask (h.report _ hreport)

theorem readOrCompute (h : Serves protocol inv resolver feature key) (context : Context)
    (definition : Option Definition) :
    (resolver.readOrCompute feature context key definition).Maintains protocol inv := by
  unfold Resolver.readOrCompute
  refine bind h.get fun row => ?_
  cases row with
  | some payload => exact pure _
  | none =>
    cases definition with
    | none => exact bind (h.emit ⟨rfl, rfl⟩) fun _ => pure _
    | some definition =>
      refine bind ?_ fun payload => bind (h.insert payload) fun _ => pure _
      unfold firstPayload
      split
      · exact h.compute _ context
      · exact pure _

theorem readOrInitialize (h : Serves protocol inv resolver feature key) (context : Context)
    (definition : Option Definition) :
    (resolver.readOrInitialize feature context key definition).Maintains protocol inv := by
  have hattempt := h.readOrCompute context definition
  unfold Resolver.readOrInitialize
  refine bind (attempt hattempt) fun outcome => ?_
  cases outcome with
  | ok value => exact pure value
  | error error =>
    exact ite (bind (h.report (.warn _) ⟨rfl, rfl⟩) fun _ =>
      bind (h.emit ⟨rfl, rfl⟩) fun _ => hattempt)
      (throw _)

/-- **An open feature is resolved** under the invariant. -/
theorem resolveOpen (h : Serves protocol inv resolver feature key) (context : Context)
    (definition : Option Definition) :
    (resolver.resolveOpen feature context key definition).Maintains protocol inv := by
  have hkeep : ∀ value : FeatureValue, (do
      modifyCache (·.put feature key value)
      if definition.isSome then resolver.emit (.resolved feature key value)
      return value : Action FeatureValue).Maintains protocol inv :=
    fun value => bind (h.keep value) fun _ =>
      ite (bind (h.emit ⟨rfl, rfl⟩) fun _ => pure _) (pure _)
  unfold Resolver.resolveOpen
  refine get_bind fun _ _ _ => ?_
  split
  · exact pure _
  · exact bind (h.readOrInitialize context definition) fun own =>
      ite (bind (pure own) hkeep) (bind h.inherit fun _ => bind (pure _) hkeep)

end Serves

/-- **Open features are resolved under an invariant**, for one context: some
features, and with each of them those it requires. -/
structure Opens (protocol : Protocol interface γ) (inv : Work → γ → Prop) (resolver : Resolver)
    (context : Context) (among : String → Prop) : Prop where
  /-- The invariant has nothing to do with frames and reports. -/
  tolerant : Tolerant protocol inv
  /-- What is required of one of the features is one of them. -/
  required {feature : String} {work : Work} {known : γ} {definition : Definition} :
    among feature → inv work known → work.registry.get? feature = some definition →
    ∀ r ∈ definition.required, among r
  /-- Resolving one of them, once it is open, maintains the invariant. -/
  resolveOpen {feature : String} {work : Work} {known : γ} :
    among feature → inv work known →
    (resolver.resolveOpen feature context (resolver.keyUnder work.ambient context)
      (work.registry.get? feature)).Maintains protocol inv

namespace Opens

variable {context : Context} {among : String → Prop} {feature : String}

theorem resolveStep (h : Opens protocol inv resolver context among)
    {again : String → Context → Action FeatureValue}
    (hagain : ∀ r, among r → (again r context).Maintains protocol inv) (hamong : among feature) :
    (resolver.resolveStep again feature context).Maintains protocol inv := by
  intro work known hinv
  have hresolve : ∀ isOpen : Bool, (if isOpen then resolver.resolveOpen feature context
      (resolver.keyUnder work.ambient context) (work.registry.get? feature)
      else Pure.pure .inactive : Action FeatureValue).Maintains protocol inv :=
    fun isOpen => ite (h.resolveOpen hamong hinv) (pure _)
  have hrequired := fun definition => @h.required feature work known definition hamong hinv
  unfold Resolver.resolveStep
  refine .contextKey_bind (.get_bind ?_)
  dsimp only
  -- the definition is looked up once, so what is known of it is split with it
  revert hresolve hrequired
  cases work.registry.get? feature with
  | none => exact fun hresolve _ => bind (pure true) hresolve work known hinv
  | some definition =>
    exact fun hresolve hrequired => bind (gateOpen h.tolerant (fun r hr =>
      hagain r (hrequired definition rfl r hr)) _ _) hresolve work known hinv

theorem resolveNested (h : Opens protocol inv resolver context among)
    {floor : String → Context → Action FeatureValue}
    (hfloor : ∀ feature, (floor feature context).Maintains protocol inv) (depth : Nat)
    (hamong : among feature) :
    (resolver.resolveNested floor depth feature context).Maintains protocol inv := by
  induction depth generalizing feature with
  | zero => exact hfloor feature
  | succ depth ih => exact h.resolveStep (fun _ => ih) hamong

/-- **Resolving a feature** maintains what the resolution of open ones does. -/
theorem resolve (h : Opens protocol inv resolver context among) (hamong : among feature) :
    (resolver.resolve feature context).Maintains protocol inv := by
  unfold Resolver.resolve
  exact bind (modify fun _ _ => h.tolerant.guard _) fun _ => get_bind fun _ _ _ =>
    h.resolveNested (fun _ => pure _) _ hamong

end Opens

/-! ## Queries -/

section Queries

variable {context : Context} {feature : String}

theorem resolveVariant (h : (resolver.resolve feature context).Maintains protocol inv) :
    (resolver.resolveVariant feature context).Maintains protocol inv := by
  unfold Resolver.resolveVariant
  refine get_bind fun work _ _ => ite (throw _) (bind h fun value => ?_)
  split
  · exact pure _
  · exact throw _

theorem isActive (h : (resolver.resolve feature context).Maintains protocol inv) :
    (resolver.isActive feature context).Maintains protocol inv :=
  bind h fun _ => pure _

theorem isInactive (h : (resolver.resolve feature context).Maintains protocol inv) :
    (resolver.isInactive feature context).Maintains protocol inv :=
  bind h fun _ => pure _

variable (h : ∀ feature, (resolver.resolve feature context).Maintains protocol inv)
include h

theorem allAreActive (features : List String) :
    (resolver.allAreActive features context).Maintains protocol inv := by
  induction features with
  | nil => exact pure true
  | cons feature rest ih =>
    unfold Resolver.allAreActive
    exact bind (isActive (h feature)) fun active => ite ih (pure false)

theorem someAreActive (features : List String) :
    (resolver.someAreActive features context).Maintains protocol inv := by
  induction features with
  | nil => exact pure false
  | cons feature rest ih =>
    unfold Resolver.someAreActive
    exact bind (isActive (h feature)) fun active => ite (pure true) ih

theorem values (features : List String) :
    (resolver.values features context).Maintains protocol inv :=
  bind (mapM fun feature _ => bind (h feature) fun _ => pure _) fun _ => pure _

theorem all : (resolver.all context).Maintains protocol inv :=
  get_bind fun _ _ _ => values h _

end Queries

/-! ## Loading -/

section Loading

variable {contexts : List Context}

theorem settle {feature key : String} {context : Context} {stored : Option Payload}
    (hput : ∀ payload, stored.map FeatureValue.ofPayload = some (.active payload) →
      (modifyCache (·.put feature key (.active payload))).Maintains protocol inv)
    (hforget : (modifyCache (·.forget feature key)).Maintains protocol inv)
    (hresolve : (resolver.resolve feature context).Maintains protocol inv) :
    (resolver.settle feature context key stored).Maintains protocol inv := by
  unfold Resolver.settle
  split
  · rename_i payload hactive
    exact hput payload hactive
  · exact bind hforget fun _ => bind hresolve fun _ => pure _

/-- **Settling pairs** with what was read for each of them maintains an invariant if
settling each pair does. -/
theorem settleAll {pairs : List (String × Context × String)}
    {row : String × Context × String → Option Payload}
    (h : ∀ pair ∈ pairs,
      (resolver.settle pair.1 pair.2.1 pair.2.2 (row pair)).Maintains protocol inv) :
    ((pairs.zip (pairs.map row)).forM fun entry =>
      resolver.settle entry.1.1 entry.1.2.1 entry.1.2.2 entry.2 : Action Unit).Maintains
        protocol inv := by
  have hzip : pairs.zip (pairs.map row) = pairs.map fun pair => (pair, row pair) := by
    simpa using List.zip_map' (l := pairs) (f := id)
  refine forM fun entry hentry => ?_
  rw [hzip] at hentry
  obtain ⟨pair, hpair, rfl⟩ := List.mem_map.mp hentry
  exact h pair hpair

/-- **Loading** maintains an invariant if to read pairs of the contexts given, and to
settle them, does. -/
theorem loadWith {skipCached : Bool} {features : List String}
    (hsettle : ∀ work known, inv work known →
      ∀ pairs : List (String × Context × String),
      (∀ pair ∈ pairs, ∃ context ∈ contexts,
        pair.2 = (context, resolver.keyUnder work.ambient context)) →
      (do let stored ← askStore (.getMany (pairs.map fun (feature, _, key) => (feature, key)))
          (pairs.zip stored).forM fun ((feature, context, key), payload) =>
            resolver.settle feature context key payload : Action Unit).Yields protocol work known
        fun _ after known => inv after known) :
    (resolver.loadWith skipCached features contexts).Maintains protocol inv := by
  intro work known h
  unfold Resolver.loadWith
  refine .get_bind ?_
  dsimp only
  split
  · exact h
  · refine hsettle work known h _ fun pair hpair => ?_
    obtain ⟨context, hcontext, heq⟩ := List.mem_map.mp (exists_of_mem_loadPairs hpair)
    exact ⟨context, hcontext, heq.symm⟩

end Loading

end Action.Maintains

end Resolver

end FeatureGate
