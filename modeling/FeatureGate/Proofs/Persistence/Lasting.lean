import FeatureGate.Proofs.Nesting.Gate
import FeatureGate.Proofs.Persistence.FirstValue
import FeatureGate.Proofs.Registry

/-!
# A value that was written is read

Whoever stores a value for a context is told it when the feature is resolved for this
context, whatever happened in between, if only no value of the feature was written or
removed. An active value counts more than any that a group has to offer, so nothing has
to be known of the groups; and it is kept in the cache at once, so that it takes no call
of the store to be told it right after.

What lasts is the row, and that the writer has no other value cached for it
(`Resolver.Lasting`). The cache may forget the value any time: the row has it.
-/

namespace FeatureGate

open Store (Rows)

namespace Resolver

/-- **A value lasts**: it is that of the row, and the one who wrote it has cached no
other value for the row. -/
structure Lasting (feature key : String) (payload : Payload) (isWriter : Prop) (work : Work)
    (known : Record) : Prop where
  /-- The row has the value. -/
  row : known.rows.get? feature key = some payload
  /-- The writer has cached no other one. -/
  cached {value : FeatureValue} : isWriter → work.cache.get? feature key = some value →
    value = .ofPayload payload

namespace Lasting

open Resolver.Action (Maintains Yields)

variable {resolver : Resolver} {feature key f k : String} {payload : Payload} {isWriter : Prop}
  {work : Work} {known after : Record} {request : Request}

/-- A request that does not write the row leaves its value. -/
theorem exchange (h : Lasting feature key payload isWriter work known) {reply : request.Reply}
    (hgives : Record.protocol.Gives known request reply after)
    (hwrites : ∀ call, request = .store call → ¬ call.Writes ⟨feature, key⟩) :
    Lasting feature key payload isWriter work after :=
  { h with row := (Record.row_eq_of_gives hgives hwrites).trans h.row }

theorem ask (hwrites : ∀ call, request = .store call → ¬ call.Writes ⟨feature, key⟩) :
    (ask request).Maintains Record.protocol (Lasting feature key payload isWriter) :=
  fun _ _ h => .ask trivial fun _ _ hgives => h.exchange hgives hwrites

theorem askStore {call : Store.Call} (hwrites : ¬ call.Writes ⟨feature, key⟩) :
    (askStore call).Maintains Record.protocol (Lasting feature key payload isWriter) :=
  fun _ _ h => .askStore trivial fun _ _ hgives =>
    h.exchange hgives fun _ heq => by cases heq; exact hwrites

theorem tolerant (feature key : String) (payload : Payload) (isWriter : Prop) :
    Tolerant Record.protocol (Lasting feature key payload isWriter) where
  guard _ h := { h with }
  allows _ _ := trivial
  gives request _ h haside hgives := h.exchange hgives fun _ heq => by
    subst heq
    exact haside.elim

/-- **A first write** meets the row, or is one of another row. -/
theorem insert (f k : String) (value : Payload) :
    (Resolver.askStore (.insert f k value)).Maintains Record.protocol
      (Lasting feature key payload isWriter) := by
  by_cases hat : (⟨feature, key⟩ : Store.Address) = ⟨f, k⟩
  · cases hat
    refine fun work known h => .askStore trivial fun _ _ hgives => { h with row := ?_ }
    rw [hgives.2.2, Rows.answer_insert_of_some h.row]
    exact h.row
  · exact askStore hat

/-- A value may be cached if it is the one that lasts, or is for another row. -/
theorem put {value : FeatureValue} (hvalue : f = feature → k = key → value = .ofPayload payload) :
    (modifyCache (·.put f k value)).Maintains Record.protocol
      (Lasting feature key payload isWriter) := by
  refine .modify fun work known h => { h with cached := fun {kept} hwriter hget => ?_ }
  rw [Cache.get?_put] at hget
  split at hget
  · rename_i hat
    exact (Option.some.inj hget).symm.trans (hvalue hat.1 hat.2)
  · exact h.cached hwriter hget

/-- Values may be forgotten. -/
theorem forget {change : Cache → Cache}
    (hforget : ∀ cache value, (change cache).get? feature key = some value →
      cache.get? feature key = some value) :
    (modifyCache change).Maintains Record.protocol (Lasting feature key payload isWriter) :=
  .modify fun work _ h =>
    { h with cached := fun hwriter hget => h.cached hwriter (hforget work.cache _ hget) }

/-! ## Resolving -/

/-- All there is to do for a feature and a key of which no value lasts. -/
theorem serves (hother : ¬ (f = feature ∧ k = key)) :
    Maintains.Serves Record.protocol (Lasting feature key payload isWriter) resolver f k where
  get := askStore not_false
  insert := insert f k
  compute _ _ := ask nofun
  inherit := .groupValue (fun _ => ask nofun) (fun _ => askStore not_false) k (ask nofun)
  keep _ := put fun hf hk => absurd ⟨hf, hk⟩ hother
  report _ hreport := .aside (tolerant ..) _ hreport.isAside

/-- **The row is read**, and has the value: none has to be computed. -/
theorem readOrInitialize (h : Lasting feature key payload isWriter work known)
    (context : Context) (definition : Option Definition) :
    (resolver.readOrInitialize feature context key definition).Yields Record.protocol work known
      fun result after next => result = .ok (.ofPayload payload)
        ∧ Lasting feature key payload isWriter after next := by
  have hget : (Resolver.askStore (.get feature key)).Yields Record.protocol work known
      fun result after next => result = .ok (some payload)
        ∧ Lasting feature key payload isWriter after next := by
    refine .askStore trivial fun reply next hgives => ⟨?_, h.exchange hgives ?_⟩
    · rw [hgives.2.1]
      exact congrArg (fun row => Except.ok row) h.row
    · rintro _ ⟨⟩
      exact not_false
  have hread : (resolver.readOrCompute feature context key definition).Yields Record.protocol
      work known fun result after next => result = .ok (.ofPayload payload)
        ∧ Lasting feature key payload isWriter after next := by
    unfold Resolver.readOrCompute
    refine .bind hget ?_ ?_
    · rintro _ _ _ ⟨⟨⟩, hlasting⟩
      exact ⟨rfl, hlasting⟩
    · rintro _ _ _ ⟨⟨⟩, -⟩
  have hattempt : (attempt (resolver.readOrCompute feature context key definition)).Yields
      Record.protocol work known fun outcome after next =>
        outcome = .ok (.ok (.ofPayload payload))
          ∧ Lasting feature key payload isWriter after next :=
    .attempt (hread.mono fun _ _ _ ⟨hresult, hlasting⟩ => ⟨congrArg Except.ok hresult, hlasting⟩)
  unfold Resolver.readOrInitialize
  refine .bind hattempt ?_ ?_
  · rintro _ _ _ ⟨⟨⟩, hlasting⟩
    exact ⟨rfl, hlasting⟩
  · rintro _ _ _ ⟨⟨⟩, -⟩

section Active

variable (hactive : (FeatureValue.ofPayload payload).isActive)
include hactive

/-- **The value of an open feature** is the one that lasts, for its writer: it is cached,
or it is read and needs no group to complete it. -/
theorem resolveOpen (h : Lasting feature key payload isWriter work known) (context : Context)
    (definition : Option Definition) :
    (resolver.resolveOpen feature context key definition).Yields Record.protocol work known
      fun result after next => Lasting feature key payload isWriter after next
        ∧ (isWriter → result = .ok (.ofPayload payload)) := by
  unfold Resolver.resolveOpen
  refine .get_bind ?_
  cases hcached : work.cache.get? feature key with
  | some value => exact ⟨h, fun hwriter => congrArg Except.ok (h.cached hwriter hcached)⟩
  | none =>
    refine .bind (h.readOrInitialize context definition) ?_ ?_
    · rintro _ after next ⟨⟨⟩, hlasting⟩
      have hkept : Lasting feature key payload isWriter
          { after with cache := after.cache.put feature key (.ofPayload payload) } next :=
        put (fun _ _ => rfl) after next hlasting
      dsimp only
      rw [if_pos hactive, pure_bind]
      refine .modify_bind ?_
      dsimp only
      split
      · exact (tolerant ..).emit_bind hkept fun _ h => ⟨h, fun _ => rfl⟩
      · exact ⟨hkept, fun _ => rfl⟩
    · rintro _ _ _ ⟨⟨⟩, -⟩

theorem opens (resolver : Resolver) (context : Context) :
    Maintains.Opens Record.protocol (Lasting feature key payload isWriter) resolver context
      fun _ => True where
  tolerant := tolerant ..
  required _ _ _ _ _ := trivial
  resolveOpen {f work _} _ _ := by
    by_cases hat : f = feature ∧ resolver.keyUnder work.ambient context = key
    · obtain ⟨rfl, rfl⟩ := hat
      exact fun _ _ h => (resolveOpen hactive h context _).mono fun _ _ _ h => h.1
    · exact (serves hat).resolveOpen context _

/-- **Resolving a feature**, this one or another, leaves a value that lasts. -/
theorem resolve (f : String) (context : Context) :
    (resolver.resolve f context).Maintains Record.protocol
      (Lasting feature key payload isWriter) :=
  (opens hactive resolver context).resolve trivial

/-- **Loading** caches what was read for the row, or for other rows. -/
theorem loadWith (skipCached : Bool) (features : List String) (contexts : List Context) :
    (resolver.loadWith skipCached features contexts).Maintains Record.protocol
      (Lasting feature key payload isWriter) := by
  refine .loadWith fun work known h pairs _ => ?_
  have hread : (Resolver.askStore
      (.getMany (pairs.map fun pair => (pair.1, pair.2.2)))).Yields Record.protocol work known
      fun result after next => result = .ok (pairs.map fun pair => known.rows.get? pair.1 pair.2.2)
        ∧ Lasting feature key payload isWriter after next := by
    refine .askStore trivial fun reply next hgives => ⟨?_, h.exchange hgives ?_⟩
    · rw [hgives.2.1]
      simp [Rows.answer, Function.comp_def, Except.mapError]
    · rintro _ ⟨⟩
      exact not_false
  refine .bind hread ?_ ?_
  · rintro _ work next ⟨⟨⟩, hlasting⟩
    refine Maintains.settleAll (fun pair _ => ?_) work next hlasting
    obtain ⟨f, context, k⟩ := pair
    refine .settle (fun stored hstored => put ?_) (forget fun cache value hget => ?_)
      (resolve hactive f context)
    · -- what was read for the row is what it has
      rintro rfl rfl
      rw [h.row] at hstored
      exact (Option.some.inj hstored).symm
    · rw [Cache.get?_forget] at hget
      exact (Option.ite_none_left_eq_some.mp hget).2
  · rintro _ _ _ ⟨⟨⟩, -⟩

/-- **Everything that tasks do which only read** leaves a value that lasts. -/
theorem reading (resolver : Resolver) :
    Maintains.Reading Record.protocol (Lasting feature key payload isWriter) resolver where
  tolerant := tolerant ..
  resolve := resolve hactive
  loadWith := loadWith hactive
  stored := askStore not_false
  define _ h :=
    { h with cached := fun hwriter hget => h.cached hwriter (Cache.get?_of_forgetFeature hget) }
  rescope _ h := { h with cached := fun _ hget => absurd hget (by simp) }
  flush h := { h with cached := fun _ hget => absurd hget (by simp) }

end Active

/-! ## Writes of other features -/

/-- **A write** leaves a value that lasts if it does not write the row, and does not
cache anything for it. -/
theorem overwrite {call : Store.Call} (hwrites : ¬ call.Writes ⟨feature, key⟩)
    {change : Cache → Cache}
    (hforget : ∀ cache value, (change cache).get? feature key = some value →
      cache.get? feature key = some value) (event : Event) :
    (resolver.overwrite call change event).Maintains Record.protocol
      (Lasting feature key payload isWriter) :=
  .overwrite (tolerant ..) (askStore hwrites) (forget hforget) event

theorem set (hother : f ≠ feature) (context : Context) (value : Payload) :
    (resolver.set f context value).Maintains Record.protocol
      (Lasting feature key payload isWriter) := by
  rw [set_eq_overwrite]
  refine .contextKey_bind fun k => overwrite ?_ (fun cache kept hget => ?_) _
  · exact fun hat => hother (Rows.address_inj.mp hat).1.symm
  · exact (Cache.get?_written hget).resolve_right fun hat => hother hat.1

theorem setForAllContexts (hother : f ≠ feature) (value : Payload) :
    (resolver.setForAllContexts f value).Maintains Record.protocol
      (Lasting feature key payload isWriter) := by
  refine overwrite ?_ (fun _ _ => Cache.get?_of_forgetFeature) _
  exact fun hat => hother (show feature = f from hat).symm

theorem delete (hother : f ≠ feature) (context : Context) :
    (resolver.delete f context).Maintains Record.protocol
      (Lasting feature key payload isWriter) := by
  refine .contextKey_bind fun k => overwrite ?_ (fun _ _ => Cache.get?_of_forgetFeature) _
  exact fun hat => hother (Rows.address_inj.mp hat).1.symm

theorem purge {names : List String} (hother : feature ∉ names) :
    (resolver.purge (some names)).Maintains Record.protocol
      (Lasting feature key payload isWriter) := by
  rw [purge_eq_overwrite]
  refine overwrite ?_ (fun cache value hget => ?_) _
  · exact hother
  · rw [Cache.purged, Cache.get?_foldl_forgetFeature] at hget
    exact (Option.ite_none_left_eq_some.mp hget).2

/-- **A purge of what has expired by some time** leaves a value that lasts if the feature
has not. -/
theorem purgeExpiredAt {now : Instant} (h : Lasting feature key payload isWriter work known)
    (hexpired : feature ∉ work.registry.expired now) :
    (do let expired := (← get).registry.expired now
        if !expired.isEmpty then
          resolver.purge (some expired)
        return expired : Action (List String)).Yields Record.protocol work known
      fun _ after next => Lasting feature key payload isWriter after next := by
  refine .get_bind ?_
  dsimp only
  split
  · exact .bind (purge hexpired _ _ h) (fun _ _ _ h => h) fun _ _ _ h => h
  · exact h

/-! ## The write itself -/

/-- **A value that is written lasts**, and if it is active it is cached. -/
theorem of_set (resolver : Resolver) (feature : String) (context : Context) (payload : Payload)
    (work : Work) (known : Record) :
    (resolver.set feature context payload).Yields Record.protocol work known
      fun _ after next => Lasting feature (resolver.keyUnder work.ambient context) payload True
          after next
        ∧ ((FeatureValue.ofPayload payload).isActive →
            after.cache.get? feature (resolver.keyUnder work.ambient context)
              = some (.ofPayload payload)) := by
  rw [set_eq_overwrite]
  refine .contextKey_bind ?_
  generalize resolver.keyUnder work.ambient context = key
  have hwritten : (Resolver.askStore (.set feature key payload)).Yields Record.protocol work known
      fun result after next => result = .ok () ∧ after = work
        ∧ next.rows.get? feature key = some payload := by
    refine .askStore trivial fun reply next hgives => ⟨?_, rfl, ?_⟩
    · rw [hgives.2.1]
      rfl
    · rw [hgives.2.2]
      exact (Rows.get?_insert ..).trans (if_pos ⟨rfl, rfl⟩)
  refine .bind hwritten ?_ ?_
  · rintro _ after next ⟨-, rfl, hrow⟩
    have hlasting : ∀ {next : Record}, next.rows.get? feature key = some payload →
        Lasting feature key payload True
          { after with cache := after.cache.written feature key payload } next :=
      fun hrow => ⟨hrow, fun _ hget => by
        rw [Cache.get?_written_self] at hget
        exact (Option.some.inj (Option.ite_none_right_eq_some.mp hget).2).symm⟩
    have hcached : (FeatureValue.ofPayload payload).isActive →
        (after.cache.written feature key payload).get? feature key = some (.ofPayload payload) :=
      fun hactive => (Cache.get?_written_self ..).trans (if_pos hactive)
    refine .modify_bind ?_
    unfold Resolver.emit
    split
    · exact .ask trivial fun _ later hgives => ⟨hlasting (hgives.2 ▸ hrow), hcached⟩
    · exact ⟨hlasting hrow, hcached⟩
  · rintro _ _ _ ⟨⟨⟩, -⟩

end Lasting

/-- **A task that covers a feature**: it writes or removes values of it, where the values
of expired features may be removed. -/
def Task.Covers (feature : String) (hasExpired : Prop) : Task → Prop
  | .operation (.set f ..) | .operation (.activate f _) | .operation (.deactivate f _)
  | .operation (.activateForGroup f _) | .operation (.setForAllContexts f _)
  | .operation (.delete f _) => f = feature
  | .operation (.purge none) => True
  | .operation (.purge (some names)) => feature ∈ names
  | .operation .purgeExpired => hasExpired
  | _ => False

end Resolver

/-! ## Crews -/

namespace Crew

open Resolver (Task Work)

variable {σ : Type} (around : Surroundings σ) (feature : String)

/-- The time that the clock tells a crew. -/
def now (crew : Crew (σ × List (Exchange Resolver.interface))) : Instant :=
  ((around.answer .clock).run crew.state.1).1

/-- **Whether a feature has expired** for a crew. -/
def hasExpired (crew : Crew (σ × List (Exchange Resolver.interface))) : Bool :=
  (crew.registry.get? feature).any (·.isExpiredAt (crew.now around))

/-- **Turns that leave a feature alone**: no value of it is written or removed. -/
def Leaves : List Turn → Crew (σ × List (Exchange Resolver.interface)) → Prop
  | [], _ => True
  | turn :: rest, crew => ¬ turn.task.Covers feature (crew.hasExpired around feature)
      ∧ Leaves rest (crew.take around.recording turn).2

/-- **A crew for which a value lasts** that the resolver at a position wrote. -/
structure Lasting (key : String) (payload : Payload) (writer : Nat) (resolver : Resolver)
    (crew : Crew (σ × List (Exchange Resolver.interface))) : Prop where
  /-- The row has the value. -/
  row : (around.record crew.state).rows.get? feature key = some payload
  /-- The writer is still there, and has cached no other value. -/
  writer : ∃ member, crew.members[writer]? = some member ∧ member.resolver = resolver
    ∧ ∀ value, member.work.cache.get? feature key = some value → value = .ofPayload payload

variable {around feature}

namespace Lasting

variable {key : String} {payload : Payload} {writer : Nat} {resolver : Resolver}
  {crew : Crew (σ × List (Exchange Resolver.interface))} {member : Member} {isWriter : Prop}

/-- **A value that is written lasts**, and if it is active its writer has it cached. -/
theorem of_set (around : Surroundings σ) (feature : String) (context : Context)
    (payload : Payload) (hwriter : crew.members[writer]? = some member) :
    let key := member.resolver.keyUnder member.work.ambient context
    let written := (crew.take around.recording
      ⟨writer, .operation (.set feature context payload)⟩).2
    written.Lasting around feature key payload writer member.resolver
      ∧ ((FeatureValue.ofPayload payload).isActive → ∃ reader,
          written.members[writer]? = some reader ∧ reader.resolver = member.resolver
            ∧ reader.work.cache.get? feature key = some (.ofPayload payload)) := by
  intro key written
  obtain ⟨hlasting, hcached⟩ := run_of_yields around.admits_recording
    (Resolver.Lasting.of_set member.resolver feature context payload
      { member.work with registry := crew.registry } (around.record crew.state))
  have htake : written = _ := congrArg Prod.snd (take_of_member hwriter)
  have hin := (List.getElem?_eq_some_iff.mp hwriter).1
  rw [htake]
  exact ⟨⟨hlasting.row, _, List.getElem?_set_self hin, rfl, fun _ => hlasting.cached trivial⟩,
    fun hactive => ⟨_, List.getElem?_set_self hin, rfl, hcached hactive⟩⟩

/-- **A task that does not cover a feature** leaves a value of it that lasts. -/
theorem run_task (hactive : (FeatureValue.ofPayload payload).isActive)
    (h : Resolver.Lasting feature key payload isWriter
      { member.work with registry := crew.registry } (around.record crew.state))
    {task : Task} (htask : ¬ task.Covers feature (crew.hasExpired around feature)) :
    let ran := crew.run around.recording member (task.action member.resolver)
    Resolver.Lasting feature key payload isWriter ran.1.2 (around.record ran.2) := by
  have hrun : ∀ {α : Type} {action : Resolver.Action α},
      action.Maintains Record.protocol (Resolver.Lasting feature key payload isWriter) →
      let ran := crew.run around.recording member action
      Resolver.Lasting feature key payload isWriter ran.1.2 (around.record ran.2) :=
    fun haction => (haction _ _ h).run around.admits_recording
  by_cases hwrite : task.IsWrite
  · cases task with
    | operation op =>
      cases op with
      | set | activate | deactivate | activateForGroup =>
        exact hrun (Resolver.Lasting.set htask _ _)
      | setForAllContexts => exact hrun (Resolver.Lasting.setForAllContexts htask _)
      | delete => exact hrun (Resolver.Lasting.delete htask _)
      | purge features =>
        cases features with
        | none => exact absurd trivial htask
        | some names => exact hrun (Resolver.Lasting.purge htask)
      | purgeExpired =>
        -- what has expired is told by the time that the clock tells first
        have hclock := hrun (Resolver.Lasting.ask (nofun : ∀ call, Request.clock = .store call → _))
        exact (hclock.purgeExpiredAt fun hexpired =>
          htask (Registry.mem_expired.mp hexpired)).run around.admits_recording
      | _ => exact hwrite.elim
    | _ => exact hwrite.elim
  · exact hrun ((Resolver.Lasting.reading hactive member.resolver).task hwrite)

/-- **A turn** that does not cover the feature leaves a value that lasts. -/
theorem take (hactive : (FeatureValue.ofPayload payload).isActive)
    (h : crew.Lasting around feature key payload writer resolver) {turn : Turn}
    (hturn : ¬ turn.task.Covers feature (crew.hasExpired around feature)) :
    (crew.take around.recording turn).2.Lasting around feature key payload writer resolver := by
  obtain ⟨member, hwriter, hresolver, hcached⟩ := h.writer
  cases hat : crew.members[turn.member]? with
  | none => rwa [take_of_none hat]
  | some taker =>
    have hstart : Resolver.Lasting feature key payload (turn.member = writer)
        { taker.work with registry := crew.registry } (around.record crew.state) := by
      refine ⟨h.row, ?_⟩
      rintro value rfl hvalue
      obtain rfl := Option.some.inj (hat.symm.trans hwriter)
      exact hcached value hvalue
    have hlasting := run_task hactive hstart hturn
    rw [take_of_member hat]
    refine ⟨hlasting.row, ?_⟩
    by_cases hself : turn.member = writer
    · subst hself
      obtain rfl := Option.some.inj (hat.symm.trans hwriter)
      have hin := (List.getElem?_eq_some_iff.mp hat).1
      exact ⟨_, List.getElem?_set_self hin, hresolver, fun _ => hlasting.cached rfl⟩
    · refine ⟨member, ?_, hresolver, hcached⟩
      rw [List.getElem?_set_ne hself]
      exact hwriter

/-- **A sequence of turns** leaves a value that lasts if it leaves the feature alone. -/
theorem after (hactive : (FeatureValue.ofPayload payload).isActive) {turns : List Turn}
    (h : crew.Lasting around feature key payload writer resolver)
    (hleaves : crew.Leaves around feature turns) :
    (crew.after around.recording turns).Lasting around feature key payload writer resolver := by
  induction turns generalizing crew with
  | nil => exact h
  | cons turn rest ih => exact ih (h.take hactive hleaves.1) hleaves.2

end Lasting

/-- **The checks of a feature** that has expired, or that requires no other: the clock is
asked, and nothing else. -/
theorem run_checks (around : Surroundings σ) {crew : Crew (σ × List (Exchange Resolver.interface))} (member : Member)
    (context : Context)
    (hplain : ∀ definition, crew.registry.get? feature = some definition →
      definition.isExpiredAt (crew.now around) ∨ definition.required = []) :
    ∃ s asked, crew.run around.recording member (member.resolver.checks feature context)
        = ((.ok (!crew.hasExpired around feature),
            { member.work with registry := crew.registry, guard := .empty }), s)
      ∧ (around.record s).rows = (around.record crew.state).rows
      ∧ s.2 = crew.state.2 ++ asked ∧ ∀ exchange ∈ asked, exchange.call = .clock := by
  have hchecks : (member.resolver.checks feature context).program
        { member.work with registry := crew.registry }
      = ((crew.registry.get? feature).elim (pure true) fun definition =>
          member.resolver.gateOpen
            (member.resolver.resolveNested (fun _ _ => return .inactive) crew.registry.gatedCount)
            definition feature context (member.resolver.keyUnder member.work.ambient context)
        : Resolver.Action Bool).program
          { member.work with registry := crew.registry, guard := .empty } := by
    unfold Resolver.checks
    rw [Resolver.Action.program_modify_bind, Resolver.Action.program_get_bind]
    dsimp only
    cases crew.registry.get? feature <;> rfl
  unfold hasExpired Crew.run
  rw [hchecks]
  cases hdefinition : crew.registry.get? feature with
  | none => exact ⟨crew.state, [], rfl, rfl, (List.append_nil crew.state.2).symm, by simp⟩
  | some definition =>
    dsimp only [Option.elim]
    rw [Resolver.Action.program_gateOpen]
    refine ⟨(around.recording .clock crew.state).2, [⟨.clock, crew.now around⟩], ?_, ?_, rfl,
      List.forall_mem_singleton.mpr rfl⟩
    · refine (Program.run_interpret_ask ..).trans ?_
      show StateT.run (Program.interpret (I := Resolver.interface) around.recording
        (if definition.isExpiredAt (crew.now around) then _ else _)) _ = _
      dsimp only [Option.any]
      cases hexpired : definition.isExpiredAt (crew.now around) with
      | true => rfl
      | false =>
        rw [(hplain definition hdefinition).resolve_left (by simp [hexpired])]
        rfl
    · exact around.other (by rintro _ ⟨⟩) crew.state.1

/-- **A resolution by the writer** comes to the value that lasts if the feature has not
expired and requires no other. -/
theorem Lasting.resolve {key : String} {payload : Payload} {writer : Nat} {resolver : Resolver}
    {crew : Crew (σ × List (Exchange Resolver.interface))} {member : Member} {context : Context}
    (h : crew.Lasting around feature key payload writer resolver)
    (hactive : (FeatureValue.ofPayload payload).isActive)
    (hwriter : crew.members[writer]? = some member)
    (hkey : member.resolver.keyUnder member.work.ambient context = key)
    (hplain : ∀ definition, crew.registry.get? feature = some definition →
      definition.isExpiredAt (crew.now around) = false ∧ definition.required = []) :
    (crew.run around.recording member (member.resolver.resolve feature context)).1.1
      = .ok (.ofPayload payload) := by
  obtain ⟨_, hwriter', -, hcached⟩ := h.writer
  obtain rfl := Option.some.inj (hwriter.symm.trans hwriter')
  obtain ⟨s, asked, hran, hrows, -⟩ := run_checks around member context
    fun definition hdefinition => .inr (hplain definition hdefinition).2
  have hopen : crew.hasExpired around feature = false := by
    unfold hasExpired
    cases hdefinition : crew.registry.get? feature with
    | none => rfl
    | some definition => exact (hplain definition hdefinition).1
  rw [run_congr (Resolver.program_resolve ..), run_bind, hran, hopen]
  dsimp only
  have hlasting : Resolver.Lasting feature key payload True
      { member.work with registry := crew.registry, guard := .empty } (around.record s) :=
    ⟨hrows ▸ h.row, fun _ => hcached _⟩
  subst hkey
  exact ((hlasting.resolveOpen hactive context _).run around.admits_recording).2 trivial

/-- **A resolution of what is cached** asks for the time only, if the feature has expired
or requires no other. -/
theorem run_resolve_of_cached {crew : Crew (σ × List (Exchange Resolver.interface))}
    {member : Member} {context : Context} {value : FeatureValue}
    (hcached : member.work.cache.get? feature
      (member.resolver.keyUnder member.work.ambient context) = some value)
    (hplain : ∀ definition, crew.registry.get? feature = some definition →
      definition.isExpiredAt (crew.now around) ∨ definition.required = []) :
    ∃ asked, (crew.run around.recording member
        (member.resolver.resolve feature context)).2.2 = crew.state.2 ++ asked
      ∧ ∀ exchange ∈ asked, exchange.call = .clock := by
  obtain ⟨s, asked, hran, -, hasked, hclock⟩ := run_checks around member context hplain
  refine ⟨asked, ?_, hclock⟩
  rw [run_congr (Resolver.program_resolve ..), run_bind, hran]
  dsimp only
  split
  · unfold Resolver.resolveOpen
    rw [Resolver.Action.program_get_bind]
    dsimp only
    rw [hcached]
    exact hasked
  · exact hasked

end Crew

/-- **Who writes a value reads it.** A resolver of a crew stores a value other than `null`
and `false` for a context. After any turns of the crew that leave the feature alone, if the
ambient scope is the same again,

* it is told the value when it resolves the feature for the context, if the feature is
  undefined by then, or has not expired and requires no other;
* it does not call the store for it right after the write, if the feature is undefined, or
  has expired, or requires no other.

The groups, the clock, the closures and the listener may answer whatever they like. -/
theorem Crew.read_your_write {σ : Type} (around : Surroundings σ)
    (crew : Crew (σ × List (Exchange Resolver.interface))) (writer : Nat) {member : Crew.Member}
    (hwriter : crew.members[writer]? = some member) (feature : String) (context : Context)
    (payload : Payload) (hnull : payload ≠ .null) (hfalse : payload ≠ .bool false)
    (turns : List Crew.Turn)
    (hleaves : (crew.take around.recording
      ⟨writer, .operation (.set feature context payload)⟩).2.Leaves around feature turns) :
    let answer := around.recording
    let written := (crew.take answer ⟨writer, .operation (.set feature context payload)⟩).2
    let later := written.after answer turns
    ∃ reader, later.members[writer]? = some reader ∧ reader.resolver = member.resolver
      ∧ (reader.work.ambient = member.work.ambient →
        let ran := later.run answer reader (reader.resolver.resolve feature context)
        ((∀ definition, later.registry.get? feature = some definition →
            definition.isExpiredAt (later.now around) = false ∧ definition.required = []) →
          ran.1.1 = .ok (.active payload))
        ∧ (turns = [] →
            (∀ definition, later.registry.get? feature = some definition →
              definition.isExpiredAt (later.now around) ∨ definition.required = []) →
            ∃ asked, ran.2.2 = later.state.2 ++ asked
              ∧ ∀ exchange ∈ asked, ∀ call, exchange.call ≠ .store call)) := by
  intro answer written later
  have hvalue := FeatureValue.ofPayload_eq_active hnull hfalse
  have hactive : (FeatureValue.ofPayload payload).isActive := by rw [hvalue]; rfl
  obtain ⟨hwritten, hcached⟩ :=
    Crew.Lasting.of_set around feature context payload hwriter
  have hlasting := hwritten.after hactive hleaves
  obtain ⟨reader, hreader, hresolver, -⟩ := hlasting.writer
  refine ⟨reader, hreader, hresolver, fun hambient => ⟨fun hplain => ?_, ?_⟩⟩
  · rw [← hvalue]
    refine hlasting.resolve hactive hreader ?_ hplain
    rw [hresolver, hambient]
  · rintro rfl hplain
    obtain ⟨cacher, hcacher, -, hcached⟩ := hcached hactive
    obtain rfl := Option.some.inj (hreader.symm.trans hcacher)
    rw [← hambient, ← hresolver] at hcached
    obtain ⟨asked, hasked, hclock⟩ := Crew.run_resolve_of_cached hcached hplain
    refine ⟨asked, hasked, fun exchange hexchange call hcall => ?_⟩
    exact Request.noConfusion ((hclock exchange hexchange).symm.trans hcall)

/-- Ada is in a group for which a feature is on. A value of her own is stored for a tenant;
then the resolver turns to no tenant, loads values, switches another feature on, defines
the feature anew, purges what has expired, and turns to the tenant again. It still tells her
own value, and not that of the group. -/
theorem Crew.read_your_write_amid_turns :
    let resolver : Resolver := ⟨.none, .standard, true, false, none⟩
    let tenant := some ((Scope.ofKind "tenant").constrain "id" (.string "1"))
    let ada := Context.scalar "ada"
    let groups := (Groups.empty.addMember "staff" (resolver.keyUnder tenant ada)).grant
      "staff" "theme"
    let rows : Store.Rows := (∅ : Store.Rows).insert
      ⟨"theme", resolver.keyUnder tenant (.group "staff")⟩ (.bool true)
    let around := Surroundings.world groups.membership
    let crew := Crew.start .empty [(resolver, tenant)] (World.start .epoch rows ⟨[]⟩, [])
    let written := (crew.take around.recording
      ⟨0, .operation (.set "theme" ada (.string "dark"))⟩).2
    let turns : List Crew.Turn := [⟨0, .operation (.setAmbientScope none)⟩,
      ⟨0, .operation (.load ["theme", "beta"] [ada])⟩, ⟨0, .operation (.activate "beta" ada)⟩,
      ⟨0, .operation (.define (.ofRule "theme" (.constant (.bool false))))⟩,
      ⟨0, .operation .purgeExpired⟩, ⟨0, .operation (.setAmbientScope tenant)⟩]
    let later := written.after around.recording turns
    (∃ reader, later.members[0]? = some reader
        ∧ (later.run around.recording reader (reader.resolver.resolve "theme" ada)).1.1
          = .ok (.active (.string "dark")))
      ∧ ∃ reader, written.members[0]? = some reader
        ∧ ∃ asked, (written.run around.recording reader
            (reader.resolver.resolve "theme" ada)).2.2 = written.state.2 ++ asked
          ∧ ∀ exchange ∈ asked, ∀ call, exchange.call ≠ .store call := by
  intro resolver tenant ada groups rows around crew written turns later
  have hexpired : (written.after around.recording (turns.take 4)).hasExpired around "theme"
      = false := by decide +kernel
  have hleaves : written.Leaves around "theme" turns :=
    ⟨not_false, not_false, (by decide : ¬ "beta" = "theme"), not_false,
      Bool.eq_false_iff.mp hexpired, not_false, trivial⟩
  have hscope : ∀ reader ∈ later.members, reader.work.ambient = tenant := by decide +kernel
  have hplain : (later.registry.get? "theme").all fun definition =>
      !definition.isExpiredAt (later.now around) && definition.required.isEmpty := by
    decide +kernel
  have hundefined : written.registry.get? "theme" = none := by decide +kernel
  have hscope' : ∀ reader ∈ written.members, reader.work.ambient = tenant := by decide +kernel
  have hnull : Json.string "dark" ≠ .null := nofun
  have hfalse : Json.string "dark" ≠ .bool false := nofun
  have hwriter : crew.members[0]? = some ⟨resolver, .start .empty tenant⟩ := rfl
  subst later written
  constructor
  · obtain ⟨reader, hreader, -, hread⟩ := Crew.read_your_write around crew 0 hwriter "theme" ada
      _ hnull hfalse turns hleaves
    obtain ⟨hvalue, -⟩ := hread (hscope reader (List.mem_of_getElem? hreader))
    refine ⟨reader, hreader, hvalue fun definition hdefinition => ?_⟩
    rw [hdefinition] at hplain
    simpa using hplain
  · obtain ⟨reader, hreader, -, hread⟩ := Crew.read_your_write around crew 0 hwriter "theme" ada
      _ hnull hfalse [] trivial
    obtain ⟨-, hasked⟩ := hread (hscope' reader (List.mem_of_getElem? hreader))
    refine ⟨reader, hreader, hasked rfl fun definition hdefinition => ?_⟩
    exact absurd (hundefined.symm.trans hdefinition) nofun

end FeatureGate
