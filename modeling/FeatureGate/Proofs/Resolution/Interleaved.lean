import FeatureGate.Proofs.Conduct
import FeatureGate.Proofs.Schedule
import FeatureGate.Proofs.Store.Rows
import FeatureGate.Race
import FeatureGate.Resolver.Write

/-!
# Resolutions that anything may interfere with

Clients that resolve a feature for a context key take turns with others, who may
write or remove the row in between, as often as they like. So a resolution cannot
be expected to end with the value of the row there is then. It ends with one that
the row had *while it went on* (`Resolver.resolutions_consistent`): right after a
turn in which the client itself called the store.

Nothing is relied on but the clock, so what a client does is a matter of the
replies it gets. The store in memory replies to a first write that there is a row
or that it was written (`Fits`). From this alone it follows what a client has noted
of its calls by the time it ends (`Accounts`): a reply that shows the payload it
ends with, or two reads that found no row, each followed by a first write that met
one. Counting turns, this is carried to the moments at which the replies were made.
-/

namespace FeatureGate.Resolver

open Store (Rows)

/-! ## Replies about a row -/

/-- The exchange in which a row is read. -/
def reading (feature key : String) (row : Option Payload) : Exchange interface :=
  ⟨.store (.get feature key), .ok row⟩

/-- The exchange in which a row is written that did not exist. -/
def writing (feature key : String) (payload : Payload) : Exchange interface :=
  ⟨.store (.insert feature key payload), .ok ()⟩

/-- The exchange in which a first write meets a row. -/
def meeting (feature key : String) (payload : Payload) : Exchange interface :=
  ⟨.store (.insert feature key payload), .error (.conflict feature key)⟩

/-- **An exchange shows a payload**: it was read, or written for the first time. -/
def Shows (feature key : String) (payload : Payload) (exchange : Exchange interface) : Prop :=
  exchange = reading feature key (some payload) ∨ exchange = writing feature key payload

/-- **An exchange puts a payload into a row**, by any call that writes it. -/
def Puts (feature key : String) (payload : Payload) : Exchange interface → Prop
  | ⟨.store (.insert f k value), reply⟩ =>
    f = feature ∧ k = key ∧ value = payload ∧ reply = .ok ()
  | ⟨.store (.set f k value), _⟩ => f = feature ∧ k = key ∧ value = payload
  | ⟨.store (.setForAll f value), _⟩ => f = feature ∧ value = payload
  | _ => False

/-- Whether a request calls the store. -/
def callsStore : Request → Bool
  | .store _ => true
  | _ => false

section Replies

variable {membership : Membership} {feature key : String} {payload : Payload}
  {request : Request} {s : World Rows}

/-- No answer changes the time. -/
theorem now_answer (membership : Membership) (request : Request) (s : World Rows) :
    ((World.answer Store.memory membership request).run s).2.now = s.now := by
  cases request <;> rfl

/-- A payload that is shown is in the row from then on. -/
theorem get?_of_shows
    (h : Shows feature key payload
      ⟨request, ((World.answer Store.memory membership request).run s).1⟩) :
    ((World.answer Store.memory membership request).run s).2.store.get? feature key
      = some payload := by
  rcases h with h | h
  · obtain ⟨rfl, hreply⟩ := Exchange.mk.inj h
    exact Except.ok.inj (eq_of_heq hreply)
  · obtain ⟨rfl, hreply⟩ := Exchange.mk.inj h
    change (s.store.answer (.insert feature key payload)).2.get? feature key = _
    cases hrow : s.store.get? feature key with
    | none => rw [Rows.answer_insert_of_none hrow, Rows.get?_insert, if_pos ⟨rfl, rfl⟩]
    | some old =>
      have hmet : (s.store.answer (.insert feature key payload)).1 = .ok () := eq_of_heq hreply
      rw [Rows.answer_insert_of_some hrow] at hmet
      cases hmet

/-- A first write meets a row if there is one. -/
theorem isSome_of_meeting
    (h : (⟨request, ((World.answer Store.memory membership request).run s).1⟩ :
      Exchange interface) = meeting feature key payload) :
    (s.store.get? feature key).isSome := by
  obtain ⟨rfl, hreply⟩ := Exchange.mk.inj h
  cases hrow : s.store.get? feature key with
  | none =>
    have hmet : (s.store.answer (.insert feature key payload)).1
        = .error (.conflict feature key) := eq_of_heq hreply
    rw [Rows.answer_insert_of_none hrow] at hmet
    cases hmet
  | some old => rfl

/-- A read that finds no row is made while there is none. -/
theorem eq_none_of_reading
    (h : (⟨request, ((World.answer Store.memory membership request).run s).1⟩ :
      Exchange interface) = reading feature key none) :
    s.store.get? feature key = none := by
  obtain ⟨rfl, hreply⟩ := Exchange.mk.inj h
  exact Except.ok.inj (eq_of_heq hreply)

/-- **What is in a row** was there before, or was put there. -/
theorem get?_or_puts_of_get?_answer
    (h : ((World.answer Store.memory membership request).run s).2.store.get? feature key
      = some payload) :
    s.store.get? feature key = some payload
      ∨ Puts feature key payload
        ⟨request, ((World.answer Store.memory membership request).run s).1⟩ := by
  cases request with
  | store call =>
    change (s.store.answer call).2.get? feature key = some payload at h
    show _ ∨ Puts feature key payload ⟨.store call, (s.store.answer call).1⟩
    cases call with
    | get | getMany | listStored => exact .inl h
    | insert f k value =>
      cases hrow : s.store.get? f k with
      | some old =>
        rw [Rows.answer_insert_of_some hrow] at h
        exact .inl h
      | none =>
        rw [Rows.answer_insert_of_none hrow, Rows.get?_insert] at h
        rw [Rows.answer_insert_of_none hrow]
        split at h
        · rename_i hat
          exact .inr ⟨hat.1, hat.2, Option.some.inj h, rfl⟩
        · exact .inl h
    | set f k value =>
      replace h := (Rows.get?_insert ..).symm.trans h
      split at h
      · rename_i hat
        exact .inr ⟨hat.1, hat.2, Option.some.inj h⟩
      · exact .inl h
    | setForAll f value =>
      replace h := (Rows.get?_setForAll ..).symm.trans h
      obtain ⟨old, hold, hvalue⟩ := Option.map_eq_some_iff.mp h
      split at hvalue
      · rename_i hfeature
        exact .inr ⟨hfeature.symm, hvalue⟩
      · exact .inl (hvalue ▸ hold)
    | delete f k =>
      replace h := (Rows.get?_erase ..).symm.trans h
      split at h
      · cases h
      · exact .inl h
    | purge features =>
      cases features with
      | none => exact absurd ((Rows.get?_purge_none s.store feature key).symm.trans h) (by simp)
      | some names =>
        replace h := (Rows.get?_purge_some ..).symm.trans h
        split at h
        · cases h
        · exact .inl h
  | _ => exact .inl h

end Replies

/-! ## What a client is told, and what it makes of it -/

/-- **A reply that fits** a store in memory and a clock that stands still. -/
def Fits (now : Instant) : (request : Request) → request.Reply → Prop
  | .clock, time => time = now
  | .store (.get ..), reply => ∃ row, reply = .ok row
  | .store (.insert feature key _), reply =>
    reply = (.ok () : Except StoreError Unit)
      ∨ reply = (.error (.conflict feature key) : Except StoreError Unit)
  | _, _ => True

theorem fits_answer (membership : Membership) (request : Request) (s : World Rows) :
    Fits s.now request ((World.answer Store.memory membership request).run s).1 := by
  cases request with
  | store call =>
    cases call with
    | get feature key => exact ⟨_, rfl⟩
    | insert feature key value =>
      show (s.store.answer (.insert feature key value)).1 = .ok ()
        ∨ (s.store.answer (.insert feature key value)).1 = .error (.conflict feature key)
      cases hrow : s.store.get? feature key with
      | none => exact .inl (by rw [Rows.answer_insert_of_none hrow])
      | some old => exact .inr (by rw [Rows.answer_insert_of_some hrow])
    | _ => trivial
  | clock => rfl
  | _ => trivial

/-- What a client notes: its exchanges with the store, oldest first. -/
def noteCall (log : List (Exchange interface)) (exchange : Exchange interface) :
    List (Exchange interface) :=
  if callsStore exchange.call then log ++ [exchange] else log

theorem foldl_noteCall (exchanges log : List (Exchange interface)) :
    exchanges.foldl noteCall log = log ++ exchanges.filter (callsStore ·.call) := by
  induction exchanges generalizing log with
  | nil => simp
  | cons exchange rest ih =>
    rw [List.foldl_cons, ih, List.filter_cons]
    unfold noteCall
    split <;> simp

/-- **The protocol of a client**: it may ask anything, is answered with what fits,
and knows its exchanges with the store. -/
def logging (now : Instant) : Protocol interface (List (Exchange interface)) where
  Allows _ _ := True
  Gives log request reply after := Fits now request reply ∧ after = noteCall log ⟨request, reply⟩

/-- **How a client accounts for what it ends with**: with an exchange that shows the
payload of its value; or else it met a row twice, right after it had found none. -/
def Accounts (feature key : String) (log : List (Exchange interface)) :
    Except FeatureError FeatureValue → Prop
  | .ok value => ∃ payload, value = .ofPayload payload
      ∧ ∃ exchange ∈ log, Shows feature key payload exchange
  | .error error => error = .store (.conflict feature key) ∧ ∃ p q,
      log = [reading feature key none, meeting feature key p, reading feature key none,
        meeting feature key q]

namespace Action

variable {now : Instant} {feature key : String} {work : Work}
  {log : List (Exchange interface)}

/-- Reporting and computing leave the log as it is. -/
theorem yields_emit (resolver : Resolver) (event : Event) :
    (resolver.emit event).Yields (logging now) work log
      fun result after log' => result = .ok () ∧ after = work ∧ log' = log := by
  unfold emit
  split
  · exact .ask trivial fun _ _ hgives => ⟨rfl, rfl, hgives.2⟩
  · exact .pure ⟨rfl, rfl, rfl⟩

theorem yields_firstPayload (definition : Definition) (context : Context) :
    (firstPayload definition context key).Yields (logging now) work log
      fun result after log' => (∃ payload, result = .ok payload) ∧ after = work ∧ log' = log := by
  unfold firstPayload
  split
  · exact .ask trivial fun payload _ hgives => ⟨⟨payload, rfl⟩, rfl, hgives.2⟩
  · exact .pure ⟨⟨_, rfl⟩, rfl, rfl⟩

/-- **An attempt** ends with a payload that was shown, or met a row after it had
found none. -/
theorem yields_readOrCompute (resolver : Resolver) (context : Context)
    (definition : Definition) :
    (resolver.readOrCompute feature context key (some definition)).Yields (logging now) work log
      fun result after log' => after = work ∧
        ((∃ payload, result = .ok (.ofPayload payload) ∧
            ∃ exchange ∈ log', Shows feature key payload exchange)
          ∨ ∃ payload, result = .error (.store (.conflict feature key)) ∧
            log' = log ++ [reading feature key none, meeting feature key payload]) := by
  have hread : (askStore (.get feature key)).Yields (logging now) work log
      fun result after log' => after = work ∧ ∃ row, result = .ok row
        ∧ log' = log ++ [reading feature key row] := by
    refine .askStore trivial fun reply _ hgives => ?_
    obtain ⟨⟨row, rfl⟩, rfl⟩ := hgives
    exact ⟨rfl, row, rfl, rfl⟩
  unfold readOrCompute
  refine Yields.bind hread ?_ ?_
  · rintro row after log' ⟨rfl, row, hrow, rfl⟩
    cases hrow
    cases row with
    | some payload =>
      refine .pure ⟨rfl, .inl ⟨payload, rfl, reading feature key (some payload), ?_, .inl rfl⟩⟩
      exact List.mem_append_right _ List.mem_cons_self
    | none =>
      refine Yields.bind (yields_firstPayload definition context) ?_ ?_
      · rintro payload after log' ⟨⟨payload, hpayload⟩, rfl, rfl⟩
        cases hpayload
        have hwrite : (askStore (.insert feature key payload)).Yields (logging now) after
            (log ++ [reading feature key none]) fun result after' log' => after' = after ∧
              (result = .ok () ∧ writing feature key payload ∈ log'
                ∨ result = .error (.store (.conflict feature key)) ∧
                  log' = log ++ [reading feature key none, meeting feature key payload]) := by
          refine .askStore trivial fun reply _ hgives => ?_
          obtain ⟨rfl | rfl, rfl⟩ := hgives
          · exact ⟨rfl, .inl ⟨rfl, List.mem_append_right _ List.mem_cons_self⟩⟩
          · refine ⟨rfl, .inr ⟨rfl, ?_⟩⟩
            show log ++ [_] ++ [_] = _
            rw [List.append_assoc]
            rfl
        refine Yields.bind hwrite ?_ ?_
        · rintro _ _ log' ⟨rfl, ⟨-, hmem⟩ | ⟨hout, -⟩⟩
          · exact .pure ⟨rfl, .inl ⟨payload, rfl, _, hmem, .inr rfl⟩⟩
          · cases hout
        · rintro e _ log' ⟨rfl, ⟨hout, -⟩ | ⟨hout, hlog⟩⟩
          · cases hout
          · cases hout
            exact ⟨rfl, .inr ⟨payload, rfl, hlog⟩⟩
      · rintro e after log' ⟨⟨payload, hout⟩, -⟩
        cases hout
  · rintro e after log' ⟨-, row, hout, -⟩
    cases hout

/-- **A first attempt and a second one after a conflict** account for what they end
with. -/
theorem yields_readOrInitialize (resolver : Resolver) (context : Context)
    (definition : Definition) :
    (resolver.readOrInitialize feature context key (some definition)).Yields (logging now) work []
      fun result after log => after = work ∧ Accounts feature key log result := by
  have hattempt : (attempt (resolver.readOrCompute feature context key (some definition))).Yields
      (logging now) work [] fun result after log => after = work ∧
        ∃ outcome, result = .ok outcome ∧ ((∃ payload, outcome = .ok (.ofPayload payload) ∧
            ∃ exchange ∈ log, Shows feature key payload exchange)
          ∨ ∃ payload, outcome = .error (.store (.conflict feature key)) ∧
            log = [reading feature key none, meeting feature key payload]) :=
    .attempt ((yields_readOrCompute resolver context definition).mono
      fun result _ _ ⟨hwork, hcases⟩ => ⟨hwork, result, rfl, hcases⟩)
  unfold readOrInitialize
  refine Yields.bind hattempt ?_ ?_
  · rintro outcome after log ⟨rfl, outcome, hout, ⟨payload, rfl, hshown⟩ | ⟨p, rfl, rfl⟩⟩
    · cases hout
      exact .pure ⟨rfl, payload, rfl, hshown⟩
    · cases hout
      -- the conflict is reported, and the second attempt decides
      refine Yields.ask_bind trivial fun reply log hgives => ?_
      obtain ⟨-, rfl⟩ := hgives
      refine Yields.bind (yields_emit resolver _) ?_ ?_
      · rintro _ _ log ⟨-, rfl, rfl⟩
        refine (yields_readOrCompute resolver context definition).mono ?_
        rintro result _ log ⟨rfl, ⟨payload, rfl, hshown⟩ | ⟨q, rfl, rfl⟩⟩
        · exact ⟨rfl, payload, rfl, hshown⟩
        · exact ⟨rfl, rfl, p, q, rfl⟩
      · rintro e _ log ⟨hout, -⟩
        cases hout
  · rintro e after log ⟨-, outcome, hout, -⟩
    cases hout

/-- Keeping a value does not change how it is accounted for. -/
theorem yields_conclude (resolver : Resolver) {value : FeatureValue}
    (h : Accounts feature key log (.ok value)) :
    (do modifyCache (·.put feature key value)
        resolver.emit (.resolved feature key value)
        return value : Action FeatureValue).Yields (logging now) work log
      fun result _ log => Accounts feature key log result := by
  refine .modify_bind (Yields.bind (yields_emit resolver _) ?_ ?_)
  · rintro _ _ log' ⟨-, -, rfl⟩
    exact .pure h
  · rintro e _ log' ⟨hout, -⟩
    cases hout

/-- **An open feature** that is not cached is accounted for. -/
theorem yields_resolveOpen {resolver : Resolver} (hgroups : resolver.consultsGroups = false)
    (hcache : work.cache.get? feature key = none) (context : Context)
    (definition : Definition) :
    (resolver.resolveOpen feature context key (some definition)).Yields (logging now) work []
      fun result _ log => Accounts feature key log result := by
  unfold resolveOpen
  refine .get_bind ?_
  dsimp only
  rw [hcache]
  refine Yields.bind (yields_readOrInitialize resolver context definition) ?_ ?_
  · rintro own _ log ⟨rfl, haccounts⟩
    split
    · exact yields_conclude resolver haccounts
    · rw [groupValue_of_no_groups hgroups]
      exact yields_conclude resolver haccounts
  · exact fun e _ log h => h.2

/-- The gate of a feature that has not expired and requires nothing is open. -/
theorem yields_gateOpen {resolver : Resolver} {definition : Definition}
    (hunexpired : definition.isExpiredAt now = false) (hrequired : definition.required = [])
    {again : String → Context → Action FeatureValue} {context : Context} :
    (resolver.gateOpen again definition feature context key).Yields (logging now) work log
      fun result after log' => result = .ok true ∧ after = work ∧ log' = log := by
  unfold gateOpen
  refine .ask_bind trivial fun time log hgives => ?_
  obtain ⟨rfl, rfl⟩ : time = now ∧ log = noteCall _ ⟨.clock, time⟩ := hgives
  rw [hunexpired, if_neg Bool.false_ne_true, hrequired]
  exact .pure ⟨rfl, rfl, rfl⟩

/-- **A client accounts for what it ends with** when it resolves a feature that has
not expired and requires nothing. -/
theorem yields_resolve {resolver : Resolver} (hgroups : resolver.consultsGroups = false)
    {definition : Definition} (hdef : work.registry.get? feature = some definition)
    (hunexpired : definition.isExpiredAt now = false) (hrequired : definition.required = [])
    (hcache : work.cache.get? feature key = none) {context : Context}
    (hkey : resolver.keyUnder work.ambient context = key) :
    (resolver.resolve feature context).Yields (logging now) work []
      fun result _ log => Accounts feature key log result := by
  unfold resolve
  refine .modify_bind (.get_bind ?_)
  dsimp only
  rw [resolveNested, resolveStep]
  refine .contextKey_bind (.get_bind ?_)
  dsimp only
  rw [hdef, hkey]
  refine Yields.bind (yields_gateOpen hunexpired hrequired) ?_ ?_
  · rintro isOpen after log ⟨hout, rfl, rfl⟩
    cases hout
    refine yields_resolveOpen hgroups ?_ context definition
    exact hcache
  · rintro e after log ⟨hout, -⟩
    cases hout

end Action

/-! ## Clients among others -/

/-- **A client** that is about to resolve a feature for a context. -/
structure Reader where
  /-- The resolver of the client. -/
  resolver : Resolver
  /-- Its unit of work. -/
  work : Work
  /-- The context. -/
  context : Context

namespace Reader

/-- What the client does. -/
def program (reader : Reader) (feature : String) : Race.Fork :=
  (reader.resolver.resolve feature reader.context).program reader.work

/-- **A client that is bound to ask for the row** of a feature and a key: the feature
is defined for it, has not expired and requires nothing, its context has the key,
and it has neither a cached value nor groups. -/
structure IsBound (reader : Reader) (feature key : String) (now : Instant) : Prop where
  /-- There is no source of groups. -/
  groupless : reader.resolver.consultsGroups = false
  /-- Nothing is cached for the feature and the key. -/
  uncached : reader.work.cache.get? feature key = none
  /-- The context has the key. -/
  key : reader.resolver.keyUnder reader.work.ambient reader.context = key
  /-- The feature is defined, has not expired and requires nothing. -/
  defined : ∃ definition, reader.work.registry.get? feature = some definition
    ∧ definition.isExpiredAt now = false ∧ definition.required = []

end Reader

/-- **How clients get along with anybody**: nothing is relied on but that the clock
stands still. -/
def interfering (membership : Membership) :
    Interplay interface (World Rows) (List (Exchange interface)) where
  answer := World.answer Store.memory membership
  Allows before after := after.now = before.now
  refl _ := rfl
  trans hst htu := htu.trans hst
  note := noteCall

section Turns

variable {membership : Membership} {feature key : String} {readers : List Reader}
  {others : List Race.Fork} {world : World Rows}

/-- The clients end accounting for what they noted, and the others may do
anything. -/
theorem keeps_readers (membership : Membership) (others : List Race.Fork)
    (hbound : ∀ reader ∈ readers, reader.IsBound feature key world.now) :
    (Pool.mk (readers.map (·.program feature) ++ others) world).Keeps
      (interfering membership)
      (fun i => ⟨fun _ => True, fun log outcome _ =>
        i < readers.length → Accounts feature key log outcome.1⟩)
      fun _ => [] := by
  have hadmits : ∀ log (s : World Rows) request, s.now = world.now →
      (logging world.now).Allows log request →
      (interfering membership).Allows s
          (((interfering membership).answer request).run s).2 ∧
        (logging world.now).Gives log request (((interfering membership).answer request).run s).1
          ((interfering membership).note log
            ⟨request, (((interfering membership).answer request).run s).1⟩) :=
    fun log s request hnow _ => ⟨now_answer membership request s,
      hnow ▸ fits_answer membership request s, rfl⟩
  have hstable : ∀ s t : World Rows, s.now = world.now →
      (interfering membership).Allows s t → t.now = world.now :=
    fun s t hs hst => hst.trans hs
  intro i program hi
  change (readers.map (·.program feature) ++ others)[i]? = some program at hi
  by_cases hlt : i < readers.length
  · rw [List.getElem?_append_left (by rwa [List.length_map]), List.getElem?_map] at hi
    obtain ⟨reader, hreader, rfl⟩ := Option.map_eq_some_iff.mp hi
    obtain ⟨hgroups, hcache, hkey, definition, hdef, hunexpired, hrequired⟩ :=
      hbound reader (List.mem_of_getElem? hreader)
    refine Program.Keeps.mono (Program.Follows.keeps hstable hadmits
      (Action.yields_resolve hgroups hdef hunexpired hrequired hcache hkey) rfl)
      (fun _ h => h) fun log outcome _ haccounts _ => haccounts
  · have honly : program.Only fun _ => True := .of_forall (fun _ => trivial) program
    exact Program.Keeps.mono
      (honly.keeps (fun request _ s => now_answer membership request s) [] world)
      (fun _ h => h) fun _ _ _ _ hreader => absurd hreader hlt

/-- **The row at any moment** has a payload it had in the beginning, or one that
somebody put there before. -/
theorem get?_or_puts_of_moment
    (pool : Pool interface (Except FeatureError FeatureValue × Work) (World Rows))
    (schedule : List Nat) {payload : Payload}
    (h : (pool.follow (interfering membership).answer schedule).state.store.get?
      feature key = some payload) :
    pool.state.store.get? feature key = some payload
      ∨ ∃ turn ∈ pool.history (interfering membership).answer schedule,
        Puts feature key payload turn.2 := by
  induction schedule generalizing pool with
  | nil => exact .inl h
  | cons i rest ih =>
    unfold Pool.history
    rcases ih (pool.advance (Program.step (interfering membership).answer) i) h
      with hrow | ⟨turn, hturn, hputs⟩
    · cases hexchange : pool.exchange? (interfering membership).answer i with
      | none =>
        rw [Pool.state_advance_of_exchange? hexchange] at hrow
        exact .inl hrow
      | some exchange =>
        obtain ⟨request, rfl, hstate⟩ := Pool.exists_of_exchange? hexchange
        rw [hstate] at hrow
        refine (get?_or_puts_of_get?_answer hrow).imp_right fun hputs => ?_
        exact ⟨(i, _), List.mem_append_left _ (List.mem_singleton_self _), hputs⟩
    · exact .inr ⟨turn, List.mem_append_right _ hturn, hputs⟩

/-- **A first write that came too late**: in one turn of a program a row was read, and
there was none; in another one it was written, and there was one. -/
structure Beaten (membership : Membership) (feature key : String)
    (pool : Pool interface (Except FeatureError FeatureValue × Work) (World Rows))
    (schedule : List Nat) (i earlier later : Nat) : Prop where
  /-- The row is read, and not found. -/
  read : pool.asked (interfering membership).answer schedule i earlier
    = some (reading feature key none)
  /-- There is no row at this moment. -/
  absent : (pool.moment (interfering membership).answer schedule earlier).state.store.get?
    feature key = none
  /-- The row is written, and met. -/
  write : ∃ payload, pool.asked (interfering membership).answer schedule i later
    = some (meeting feature key payload)
  /-- There is a row at this moment. -/
  present : ((pool.moment (interfering membership).answer schedule later).state.store.get?
    feature key).isSome

section Moments

variable {pool : Pool interface (Except FeatureError FeatureValue × Work) (World Rows)}
  {schedule : List Nat} {i turn : Nat} {payload : Payload}

/-- A payload that is shown in a turn is in the row after it. -/
theorem get?_moment_of_shows {exchange : Exchange interface}
    (h : pool.asked (interfering membership).answer schedule i turn = some exchange)
    (hshows : Shows feature key payload exchange) :
    (pool.moment (interfering membership).answer schedule (turn + 1)).state.store.get?
      feature key = some payload := by
  obtain ⟨request, rfl, hstate⟩ := Pool.exists_of_asked h
  rw [hstate]
  exact get?_of_shows hshows

theorem beaten_of_asked {earlier later : Nat}
    (hread : pool.asked (interfering membership).answer schedule i earlier
      = some (reading feature key none))
    (hwrite : pool.asked (interfering membership).answer schedule i later
      = some (meeting feature key payload)) :
    Beaten membership feature key pool schedule i earlier later := by
  obtain ⟨_, hreading, -⟩ := Pool.exists_of_asked hread
  obtain ⟨_, hmeeting, -⟩ := Pool.exists_of_asked hwrite
  exact ⟨hread, eq_none_of_reading hreading.symm, ⟨payload, hwrite⟩,
    isSome_of_meeting hmeeting.symm⟩

/-- What a client accounts for, turn by turn. -/
theorem exists_turns_of_accounts {result : Except FeatureError FeatureValue}
    (h : Accounts feature key ((Pool.exchangesOf i (pool.history (interfering membership).answer
      schedule)).filter (callsStore ·.call)) result) :
    (∀ value, result = .ok value →
        ∃ turn ∈ pool.turnsOf (interfering membership).answer schedule callsStore i, ∃ payload,
          (pool.moment (interfering membership).answer schedule (turn + 1)).state.store.get?
              feature key = some payload
            ∧ value = .ofPayload payload)
      ∧ ∀ error, result = .error error → error = .store (.conflict feature key) ∧ ∃ a b c d,
          pool.turnsOf (interfering membership).answer schedule callsStore i = [a, b, c, d]
            ∧ Beaten membership feature key pool schedule i a b
            ∧ Beaten membership feature key pool schedule i c d := by
  have hturns : (pool.turnsOf (interfering membership).answer schedule callsStore i).map
      (pool.asked (interfering membership).answer schedule i)
      = ((Pool.exchangesOf i (pool.history (interfering membership).answer schedule)).filter
          (callsStore ·.call)).map some :=
    Pool.map_asked_turnsOf (I := interface) callsStore i
  constructor
  · rintro value rfl
    obtain ⟨payload, hvalue, exchange, hexchange, hshows⟩ := h
    have hmem := List.mem_map_of_mem (f := some) hexchange
    rw [← hturns] at hmem
    obtain ⟨turn, hturn, hasked⟩ := List.mem_map.mp hmem
    exact ⟨turn, hturn, payload, get?_moment_of_shows hasked hshows, hvalue⟩
  · rintro error rfl
    obtain ⟨rfl, p, q, hlog⟩ := h
    rw [hlog] at hturns
    obtain ⟨a, rest, hrest, ha, hturns⟩ := List.map_eq_cons_iff.mp hturns
    obtain ⟨b, rest, rfl, hb, hturns⟩ := List.map_eq_cons_iff.mp hturns
    obtain ⟨c, rest, rfl, hc, hturns⟩ := List.map_eq_cons_iff.mp hturns
    obtain ⟨d, rest, rfl, hd, hturns⟩ := List.map_eq_cons_iff.mp hturns
    obtain rfl := List.map_eq_nil_iff.mp hturns
    exact ⟨rfl, a, b, c, d, hrest, beaten_of_asked ha hb, beaten_of_asked hc hd⟩

end Moments

/-- **Resolutions are consistent with the row at some moment.** Any number of clients
resolve a feature for contexts with the same key, at any pace, while others do what
they like to the row.

* A client that ends with a value has it from the row as it was right after one of
  the turns in which the client called the store, and so neither before the first of
  them nor after the last.
* A client that fails met the row twice, each time after it had found none. It made
  no other calls of the store.
* At any moment, the row has the payload it had in the beginning, or one that
  somebody put there before. -/
theorem resolutions_consistent (membership : Membership) (readers : List Reader)
    (others : List Race.Fork) (feature key : String) (world : World Rows)
    (hbound : ∀ reader ∈ readers, reader.IsBound feature key world.now)
    (schedule : List Nat) :
    let answer := (interfering membership).answer
    let start : Pool interface (Except FeatureError FeatureValue × Work) (World Rows) :=
      ⟨readers.map (·.program feature) ++ others, world⟩
    let row := fun n => (start.moment answer schedule n).state.store.get? feature key
    (∀ i < readers.length, ∀ outcome,
        (start.follow answer schedule).programs[i]? = some (.done outcome) →
          (∀ value, outcome.1 = .ok value →
            ∃ turn ∈ start.turnsOf answer schedule callsStore i, ∃ payload,
              row (turn + 1) = some payload ∧ value = .ofPayload payload)
          ∧ ∀ error, outcome.1 = .error error → error = .store (.conflict feature key) ∧
              ∃ a b c d, start.turnsOf answer schedule callsStore i = [a, b, c, d]
                ∧ Beaten membership feature key start schedule i a b
                ∧ Beaten membership feature key start schedule i c d)
      ∧ ∀ n payload, row n = some payload →
          world.store.get? feature key = some payload
            ∨ ∃ turn ∈ start.history answer (schedule.take n),
              Puts feature key payload turn.2 := by
  intro answer start row
  refine ⟨fun i hlt outcome hdone => ?_, fun n payload hrow => ?_⟩
  · obtain ⟨-, hkeeps⟩ := (keeps_readers membership others hbound).follow schedule
    have haccounts : Accounts feature key
        ((Pool.exchangesOf i (start.history answer schedule)).foldl noteCall []) outcome.1 :=
      hkeeps i _ hdone _ rfl hlt
    rw [foldl_noteCall, List.nil_append] at haccounts
    exact exists_turns_of_accounts haccounts
  · exact get?_or_puts_of_moment start (schedule.take n) hrow

/-- A client finds no row twice. Both times somebody else is faster to write one,
who removed it in between; so the client fails, and has been beaten twice. -/
theorem resolutions_consistent_beaten_twice :
    let resolver : Resolver := ⟨.none, .standard, false, true, none⟩
    let work : Work := .start
      ⟨(∅ : Std.ExtTreeMap String Definition).insert "dark" (.ofRule "dark" (.constant (.bool true)))⟩
      none
    let meddler : Action FeatureValue := do
      resolver.set "dark" (.scalar "ada") (.bool false)
      resolver.delete "dark" (.scalar "ada")
      resolver.set "dark" (.scalar "ada") (.bool true)
      return .inactive
    let answer := (interfering .none).answer
    let start : Pool interface (Except FeatureError FeatureValue × Work) (World Rows) :=
      ⟨[⟨resolver, work, .scalar "ada"⟩].map (Reader.program · "dark") ++ [meddler.program work],
        .start .epoch ∅ ⟨[]⟩⟩
    let schedule := [0, 0, 1, 1, 0, 0, 0, 1, 1, 0, 1, 1, 0]
    ∃ outcome, (start.follow answer schedule).programs[0]? = some (.done outcome)
      ∧ outcome.1 = .error (.store (.conflict "dark" "ada"))
      ∧ ∃ a b c d, start.turnsOf answer schedule callsStore 0 = [a, b, c, d]
        ∧ Beaten .none "dark" "ada" start schedule 0 a b
        ∧ Beaten .none "dark" "ada" start schedule 0 c d := by
  intro resolver work meddler answer start schedule
  have hfails : ((start.follow answer schedule).programs[0]?.bind (·.result?)).map
      (·.1.isOk) = some false := by
    subst start schedule answer meddler work resolver
    decide +kernel
  obtain ⟨hreader, -⟩ := resolutions_consistent .none [⟨resolver, work, .scalar "ada"⟩]
    [meddler.program work] "dark" "ada" (.start .epoch ∅ ⟨[]⟩) (by
      intro reader hreader
      obtain rfl := List.mem_singleton.mp hreader
      exact ⟨rfl, rfl, by decide +kernel,
        _, by simp [work, Work.start, Registry.get?]; rfl, rfl, rfl⟩) schedule
  cases hfirst : (start.follow answer schedule).programs[0]? with
  | none => rw [hfirst] at hfails; cases hfails
  | some program =>
    rw [hfirst] at hfails
    cases program with
    | ask => cases hfails
    | done outcome =>
      obtain ⟨-, herror⟩ := hreader 0 (by decide) outcome hfirst
      obtain ⟨result, after⟩ := outcome
      cases result with
      | ok value => cases hfails
      | error error =>
        obtain ⟨rfl, hbeaten⟩ := herror error rfl
        exact ⟨_, rfl, rfl, hbeaten⟩

end Turns

end FeatureGate.Resolver
