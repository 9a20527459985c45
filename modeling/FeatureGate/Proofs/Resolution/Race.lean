import FeatureGate.Proofs.Resolution.Values
import FeatureGate.Proofs.Transcript
import FeatureGate.Race

/-!
# First resolutions at the same time

Forks of a resolver that resolve the same feature for the same context key may
all find no row, all compute a payload, and all try to write it. The store lets
one of them write; the others meet its row, and read it.

The forks rely on one thing: a row that exists stays as it is
(`Resolver.racing`). Under it each of them keeps the promise to end with the
value of the row, and to report a retry exactly if it met a row when it wanted
to write one (`Resolver.agreement`). What may happen between two requests of a
fork is then no longer of interest: as far as the row is concerned, nothing or a
first write.
-/

namespace FeatureGate.Resolver

open Store (Rows)

/-! ## What is relied on, and what is promised -/

/-- The reply to a first write of a row. -/
def insertReply? (feature key : String) : Exchange interface → Option (Except StoreError Unit)
  | ⟨.store (.insert f k _), reply⟩ => if f = feature ∧ k = key then some reply else none
  | _ => none

/-- Whether a row was written that did not exist. -/
def wrote (feature key : String) (exchange : Exchange interface) : Bool :=
  match insertReply? feature key exchange with
  | some (.ok _) => true
  | _ => false

/-- Whether a first write met a row. -/
def met (feature key : String) (exchange : Exchange interface) : Bool :=
  match insertReply? feature key exchange with
  | some (.error (.conflict ..)) => true
  | _ => false

/-- Whether a retry was reported. -/
def told (feature key : String) : Exchange interface → Bool
  | ⟨.deliver event, _⟩ => event = .raceRetried feature key
  | _ => false

/-- **What a fork notes**: how often its first write met a row, and how often it
reported a retry. -/
structure Tally where
  /-- How often a first write met a row. -/
  met : Nat
  /-- How often a retry was reported. -/
  told : Nat
deriving DecidableEq, Repr

/-- The notes after an exchange. -/
def Tally.note (feature key : String) (tally : Tally) (exchange : Exchange interface) : Tally where
  met := tally.met + (Resolver.met feature key exchange).toNat
  told := tally.told + (Resolver.told feature key exchange).toNat

theorem Tally.foldl_note (feature key : String) (exchanges : List (Exchange interface))
    (tally : Tally) :
    exchanges.foldl (Tally.note feature key) tally
      = ⟨tally.met + exchanges.countP (Resolver.met feature key),
          tally.told + exchanges.countP (Resolver.told feature key)⟩ := by
  induction exchanges generalizing tally with
  | nil => rfl
  | cons exchange rest ih =>
    rw [List.foldl_cons, ih, List.countP_cons, List.countP_cons]
    cases hmet : Resolver.met feature key exchange <;>
      cases htold : Resolver.told feature key exchange <;>
      simp [Tally.note, hmet, htold, Nat.add_assoc, Nat.add_comm 1]

/-- **How forks get along**: a row that exists stays as it is, and so does the
time. -/
def racing (membership : Membership) (feature key : String) :
    Interplay interface (World Rows) Tally where
  answer := World.answer Store.memory membership
  Allows before after := after.now = before.now ∧ ∀ payload,
    before.store.get? feature key = some payload → after.store.get? feature key = some payload
  refl _ := ⟨rfl, fun _ h => h⟩
  trans hst htu := ⟨htu.1.trans hst.1, fun payload h => htu.2 payload (hst.2 payload h)⟩
  note := Tally.note feature key

/-- **The promise of a fork**: to report no retry but after a first write that met
a row, and that at most once; to end with the value of the row, and to have
reported the retry then. -/
def agreement (resolver : Resolver) (feature key : String) :
    Promise (Except FeatureError FeatureValue × Work) (World Rows) Tally where
  during tally := tally.told ≤ tally.met ∧ tally.met ≤ 1
  atEnd tally outcome world :=
    (∃ payload, world.store.get? feature key = some payload
        ∧ outcome.1 = .ok (.ofPayload payload))
      ∧ tally.met ≤ 1
      ∧ tally.told = if resolver.isHeard then tally.met else 0

/-- What is promised at the end is no less than what is promised before. -/
theorem agreement_during (resolver : Resolver) (feature key : String) {tally : Tally}
    {outcome : Except FeatureError FeatureValue × Work} {world : World Rows}
    (h : (resolver.agreement feature key).atEnd tally outcome world) :
    (resolver.agreement feature key).during tally := by
  obtain ⟨-, hmet, htold⟩ := h
  refine ⟨?_, hmet⟩
  rw [htold]
  split
  · exact Nat.le_refl _
  · exact Nat.zero_le _

/-! ## Keeping promises -/

namespace Action

variable {α β : Type} {membership : Membership} {feature key : String}
  {promise : Promise (Except FeatureError β × Work) (World Rows) Tally}
  {tally : Tally} {work : Work} {s : World Rows}

/-- An action keeps a promise as its program does. -/
abbrev Keeps (membership : Membership) (feature key : String)
    (promise : Promise (Except FeatureError β × Work) (World Rows) Tally)
    (action : Action β) (work : Work) (tally : Tally) (s : World Rows) : Prop :=
  (action.program work).Keeps (racing membership feature key) promise tally s

/-- **One action after another** keeps a promise if the second does, from
wherever the first ends as it promised. -/
theorem keeps_bind {action : Action α} {next : α → Action β}
    {first : Promise (Except FeatureError α × Work) (World Rows) Tally}
    (h : action.Keeps membership feature key first work tally s)
    (hduring : ∀ tally, first.during tally → promise.during tally)
    (hok : ∀ tally a after t, (racing membership feature key).Allows s t →
      first.atEnd tally (.ok a, after) t →
      (next a).Keeps membership feature key promise after tally t)
    (herror : ∀ tally e after t, first.atEnd tally (.error e, after) t →
      (throw e : Action β).Keeps membership feature key promise after tally t) :
    (action >>= next).Keeps membership feature key promise work tally s := by
  unfold Keeps
  rw [program_bind]
  refine Program.Keeps.bind h hduring ?_
  rintro tally ⟨result, after⟩ t hst hend
  have hnow := hend t ((racing membership feature key).refl t)
  cases result with
  | ok a => exact hok tally a after t hst hnow
  | error e => exact herror tally e after t hnow

/-- What comes out of an action is what it promised. -/
theorem keeps_attempt {action : Action α}
    {first : Promise (Except FeatureError α × Work) (World Rows) Tally}
    (h : action.Keeps membership feature key first work tally s) :
    (attempt action).Keeps membership feature key
      ⟨first.during, fun tally outcome t => ∃ result after,
        outcome = (.ok result, after) ∧ first.atEnd tally (result, after) t⟩ work tally s := by
  unfold Keeps
  rw [program_attempt]
  refine Program.Keeps.bind h (fun _ h => h) fun tally outcome t _ hend u htu => ?_
  exact ⟨outcome.1, outcome.2, rfl, hend u htu⟩

theorem keeps_pure {a : β}
    (h : ∀ t, (racing membership feature key).Allows s t →
      promise.atEnd tally (.ok a, work) t) :
    (pure a : Action β).Keeps membership feature key promise work tally s := h

theorem keeps_throw {e : FeatureError}
    (h : ∀ t, (racing membership feature key).Allows s t →
      promise.atEnd tally (.error e, work) t) :
    (throw e : Action β).Keeps membership feature key promise work tally s := h

theorem keeps_work_bind {next : Work → Action β}
    (h : (next work).Keeps membership feature key promise work tally s) :
    (get >>= next).Keeps membership feature key promise work tally s := h

theorem keeps_modify_bind {f : Work → Work} {next : PUnit → Action β}
    (h : (next ⟨⟩).Keeps membership feature key promise (f work) tally s) :
    (modify f >>= next).Keeps membership feature key promise work tally s := h

/-- Whoever asks goes on with the reply. -/
theorem keeps_ask_bind {request : Request} {next : request.Reply → Action β}
    (hduring : promise.during tally)
    (h : ∀ t, (racing membership feature key).Allows s t →
      (racing membership feature key).Allows t
          ((World.answer Store.memory membership request).run t).2 ∧
        (next ((World.answer Store.memory membership request).run t).1).Keeps membership
          feature key promise work
          (tally.note feature key
            ⟨request, ((World.answer Store.memory membership request).run t).1⟩)
          ((World.answer Store.memory membership request).run t).2) :
    (ask request >>= next).Keeps membership feature key promise work tally s :=
  ⟨hduring, h⟩

/-- A request that does not touch the row changes nothing that is relied on. -/
theorem keeps_ask (request : Request)
    {promise : Promise (Except FeatureError request.Reply × Work) (World Rows) Tally}
    (hduring : promise.during tally)
    (hstore : ∀ t : World Rows,
      ((World.answer Store.memory membership request).run t).2.store = t.store)
    (hnow : ∀ t : World Rows,
      ((World.answer Store.memory membership request).run t).2.now = t.now)
    (h : ∀ reply t, promise.atEnd (tally.note feature key ⟨request, reply⟩)
      (.ok reply, work) t) :
    (ask request).Keeps membership feature key promise work tally s := by
  refine ⟨hduring, fun t hst => ⟨⟨hnow t, fun payload hrow => ?_⟩, fun u htu => h _ u⟩⟩
  exact (congrArg (Rows.get? · feature key) (hstore t)).trans hrow

/-! ## What each part of a first resolution promises -/

/-- Reading the row: what is read of it stays true, unless it was that there is
none. -/
theorem keeps_get : (askStore (.get feature key)).Keeps membership feature key
    ⟨(· = tally), fun after outcome t => after = tally ∧ ∃ read, outcome = (.ok read, work)
      ∧ (∀ payload, read = some payload → t.store.get? feature key = some payload)
      ∧ ∀ payload, s.store.get? feature key = some payload → read = some payload⟩
    work tally s := by
  refine keeps_ask_bind rfl fun t hst => ⟨⟨rfl, fun _ h => h⟩, keeps_pure fun u htu => ?_⟩
  exact ⟨rfl, t.store.get? feature key, rfl, htu.2, hst.2⟩

/-- Writing the row for the first time: it is written, or there is one. -/
theorem keeps_insert (value : Payload) :
    (askStore (.insert feature key value)).Keeps membership feature key
      ⟨(· = tally), fun after outcome t =>
        (after = tally ∧ outcome = (.ok (), work) ∧ t.store.get? feature key = some value)
        ∨ after = ⟨tally.met + 1, tally.told⟩
          ∧ outcome = (.error (.store (.conflict feature key)), work)
          ∧ ∃ payload, t.store.get? feature key = some payload⟩
      work tally s := by
  refine keeps_ask_bind rfl fun t hst => ?_
  have hanswer : (World.answer Store.memory membership
        (.store (.insert feature key value))).run t
      = ((t.store.answer (.insert feature key value)).1,
          { t with store := (t.store.answer (.insert feature key value)).2 }) := rfl
  cases hrow : t.store.get? feature key with
  | none =>
    rw [hanswer, Rows.answer_insert_of_none hrow]
    refine ⟨⟨rfl, fun payload h => ?_⟩, keeps_pure fun u htu => Or.inl ⟨?_, rfl, ?_⟩⟩
    · rw [hrow] at h
      cases h
    · simp [Tally.note, met, told, insertReply?]
    · exact htu.2 value (by simp [Rows.get?_insert])
  | some payload =>
    rw [hanswer, Rows.answer_insert_of_some hrow]
    refine ⟨⟨rfl, fun _ h => h⟩, keeps_throw fun u htu => Or.inr ⟨?_, rfl, payload, ?_⟩⟩
    · simp [Tally.note, met, told, insertReply?]
    · exact htu.2 payload hrow

/-- Computing a first payload, whatever it is. -/
theorem keeps_firstPayload (definition : Definition) (context : Context) :
    (firstPayload definition context key).Keeps membership feature key
      ⟨(· = tally), fun after outcome _ => after = tally ∧ ∃ payload,
        outcome = (.ok payload, work)⟩ work tally s := by
  unfold firstPayload
  cases definition.firstPayload key with
  | inl closure =>
    exact keeps_ask (.compute closure context) rfl (fun _ => rfl) (fun _ => rfl)
      fun payload _ => ⟨rfl, payload, rfl⟩
  | inr payload =>
    refine keeps_pure ?_
    exact fun _ _ => ⟨rfl, payload, rfl⟩

/-- Reporting an event: a retry is noted, if anybody hears of it. -/
theorem keeps_emit (resolver : Resolver) (event : Event) :
    (resolver.emit event).Keeps membership feature key
      ⟨(· = tally), fun after outcome _ => outcome = (.ok (), work) ∧
        after = ⟨tally.met, tally.told
          + if resolver.isHeard ∧ event = .raceRetried feature key then 1 else 0⟩⟩
      work tally s := by
  unfold emit
  by_cases hheard : (resolver.config.emitEvents && resolver.hasListener) = true
  · rw [if_pos hheard]
    refine keeps_ask (.deliver event) rfl (fun _ => rfl) (fun _ => rfl) fun _ _ => ⟨rfl, ?_⟩
    by_cases hevent : event = .raceRetried feature key <;>
      simp [Tally.note, met, told, insertReply?, isHeard, hheard, hevent]
  · rw [if_neg hheard]
    refine keeps_pure fun t hst => ⟨rfl, ?_⟩
    simp [isHeard, hheard]

/-- **An attempt** ends with the value of the row, or it met a row that it had
not seen. -/
theorem keeps_readOrCompute (resolver : Resolver) (context : Context)
    (definition : Definition) :
    (resolver.readOrCompute feature context key (some definition)).Keeps membership feature
      key
      ⟨(· = tally), fun after outcome t => ∃ payload, t.store.get? feature key = some payload ∧
        ((after = tally ∧ outcome = (.ok (.ofPayload payload), work))
          ∨ after = ⟨tally.met + 1, tally.told⟩
            ∧ outcome = (.error (.store (.conflict feature key)), work)
            ∧ s.store.get? feature key = none)⟩
      work tally s := by
  unfold readOrCompute
  refine keeps_bind keeps_get (fun _ h => h) ?_ ?_
  · rintro _ read _ t hst ⟨rfl, read, hread, hstill, hseen⟩
    cases hread
    cases read with
    | some payload =>
      refine keeps_pure fun u htu => ?_
      exact ⟨payload, htu.2 payload (hstill payload rfl), Or.inl ⟨rfl, rfl⟩⟩
    | none =>
      -- by now there may be a row, but there was none to begin with
      have hunseen : s.store.get? feature key = none := by
        rw [← Option.not_isSome_iff_eq_none, Option.isSome_iff_exists]
        rintro ⟨payload, hrow⟩
        cases hseen payload hrow
      refine keeps_bind (keeps_firstPayload definition context) (fun _ h => h) ?_ ?_
      · rintro _ payload _ u - ⟨rfl, payload, hpayload⟩
        cases hpayload
        refine keeps_bind (keeps_insert payload) (fun _ h => h) ?_ ?_
        · rintro _ _ _ v - (⟨rfl, hout, hrow⟩ | ⟨-, hout, -⟩)
          · cases hout
            refine keeps_pure fun w hvw => ?_
            exact ⟨payload, hvw.2 payload hrow, Or.inl ⟨rfl, rfl⟩⟩
          · cases hout
        · rintro _ _ _ v (⟨-, hout, -⟩ | ⟨rfl, hout, winner, hrow⟩)
          · cases hout
          · cases hout
            refine keeps_throw fun w hvw => ?_
            exact ⟨winner, hvw.2 winner hrow, Or.inr ⟨rfl, rfl, hunseen⟩⟩
      · rintro _ _ _ u ⟨-, payload, hout⟩
        cases hout
  · rintro _ _ _ t ⟨-, read, hout, -⟩
    cases hout

/-- **A retry** is reported, and ends with the value of the row that was met. -/
theorem keeps_retry (resolver : Resolver) (context : Context) (definition : Definition)
    {winner : Payload} (hwinner : s.store.get? feature key = some winner) :
    (do ask (.warn (.concurrentFirstWrite feature key))
        resolver.emit (.raceRetried feature key)
        resolver.readOrCompute feature context key (some definition)).Keeps membership
      feature key
      ⟨(resolver.agreement feature key).during, fun after outcome t =>
        (resolver.agreement feature key).atEnd after outcome t ∧ outcome.2 = work⟩
      work ⟨1, 0⟩ s := by
  refine keeps_ask_bind ⟨Nat.zero_le 1, Nat.le_refl 1⟩ fun t hst => ⟨⟨rfl, fun _ h => h⟩, ?_⟩
  show Action.Keeps _ _ _ _ (resolver.emit _ >>= _) _ (⟨1, 0⟩ : Tally) _
  refine keeps_bind (keeps_emit resolver _) ?_ ?_ ?_
  · rintro _ rfl
    exact ⟨Nat.zero_le 1, Nat.le_refl 1⟩
  · rintro _ _ _ u htu ⟨hout, rfl⟩
    cases hout
    -- the row is still there, so it cannot be met for a second time
    have hrow : u.store.get? feature key = some winner := htu.2 winner (hst.2 winner hwinner)
    refine (keeps_readOrCompute resolver context definition).mono ?_ ?_
    · rintro _ rfl
      refine ⟨?_, Nat.le_refl 1⟩
      dsimp only
      split <;> decide
    · rintro _ outcome v ⟨payload, hpayload, ⟨rfl, rfl⟩ | ⟨-, -, hnone⟩⟩
      · refine ⟨⟨⟨payload, hpayload, rfl⟩, Nat.le_refl 1, ?_⟩, rfl⟩
        simp
      · rw [hrow] at hnone
        cases hnone
  · rintro _ _ _ u ⟨hout, -⟩
    cases hout

/-- **Reading or initializing** ends with the value of the row, and reports a
retry if it met a row. -/
theorem keeps_readOrInitialize (resolver : Resolver) (context : Context)
    (definition : Definition) :
    (resolver.readOrInitialize feature context key (some definition)).Keeps membership
      feature key
      ⟨(resolver.agreement feature key).during, fun after outcome t =>
        (resolver.agreement feature key).atEnd after outcome t ∧ outcome.2 = work⟩
      work ⟨0, 0⟩ s := by
  unfold readOrInitialize
  refine keeps_bind (keeps_attempt (keeps_readOrCompute resolver context definition)) ?_ ?_ ?_
  · rintro tally rfl
    exact ⟨Nat.le_refl 0, Nat.zero_le 1⟩
  · rintro tally _ _ t - ⟨result, after, hout, payload, hrow, hcases⟩
    cases hout
    rcases hcases with ⟨rfl, hout⟩ | ⟨rfl, hout, -⟩
    · cases hout
      refine keeps_pure fun u htu => ⟨⟨⟨payload, htu.2 payload hrow, rfl⟩, ?_, ?_⟩, rfl⟩
      · exact Nat.zero_le 1
      · exact (ite_self 0).symm
    · cases hout
      exact keeps_retry resolver context definition hrow
  · rintro tally _ _ t ⟨result, after, hout, -⟩
    cases hout

/-- Keeping the value does not touch the row, and reports no retry. -/
theorem keeps_conclude (resolver : Resolver) {value : FeatureValue} {payload : Payload}
    (hrow : s.store.get? feature key = some payload) (hvalue : value = .ofPayload payload)
    (hmet : tally.met ≤ 1) (htold : tally.told = if resolver.isHeard then tally.met else 0) :
    (do modifyCache (·.put feature key value)
        resolver.emit (.resolved feature key value)
        return value : Action FeatureValue).Keeps membership feature key
      (resolver.agreement feature key) work tally s := by
  have hend : (resolver.agreement feature key).atEnd tally (.ok value, work) s :=
    ⟨⟨payload, hrow, congrArg Except.ok hvalue⟩, hmet, htold⟩
  have hduring := agreement_during resolver feature key hend
  show Action.Keeps _ _ _ _ (resolver.emit _ >>= fun _ => pure value) _ tally s
  refine keeps_bind (keeps_emit resolver _) ?_ ?_ ?_
  · rintro _ rfl
    exact hduring
  · rintro _ _ _ t hst ⟨hout, rfl⟩
    cases hout
    refine keeps_pure fun u htu => ⟨⟨payload, htu.2 payload (hst.2 payload hrow), ?_⟩, hmet, ?_⟩
    · rw [hvalue]
    · simpa using htold
  · rintro _ _ _ t ⟨hout, -⟩
    cases hout

/-- **An open feature** that is not cached keeps the agreement. -/
theorem keeps_resolveOpen {resolver : Resolver} (hgroups : resolver.consultsGroups = false)
    (hcache : work.cache.get? feature key = none) (context : Context)
    (definition : Definition) :
    (resolver.resolveOpen feature context key (some definition)).Keeps membership feature key
      (resolver.agreement feature key) work ⟨0, 0⟩ s := by
  unfold resolveOpen
  refine keeps_work_bind ?_
  dsimp only
  rw [hcache]
  refine keeps_bind (keeps_readOrInitialize resolver context definition) (fun _ h => h) ?_ ?_
  · rintro tally own _ t - ⟨⟨⟨payload, hrow, hown⟩, hmet, htold⟩, rfl⟩
    split
    · exact keeps_conclude resolver hrow (Except.ok.inj hown) hmet htold
    · rw [groupValue_of_no_groups hgroups]
      exact keeps_conclude resolver hrow (Except.ok.inj hown) hmet htold
  · rintro _ e _ t ⟨⟨⟨payload, -, hout⟩, -⟩, -⟩
    cases hout

/-- The gate of a feature that has not expired and requires nothing holds. -/
theorem keeps_gateOpen {resolver : Resolver} {definition : Definition}
    (hunexpired : definition.isExpiredAt s.now = false) (hrequired : definition.required = [])
    (again : String → Context → Action FeatureValue) (context : Context) (key' : String) :
    (resolver.gateOpen again definition feature context key').Keeps membership feature key
      ⟨(· = tally), fun after outcome _ => after = tally ∧ outcome = (.ok true, work)⟩
      work tally s := by
  unfold gateOpen
  refine keeps_ask_bind rfl fun t hst => ⟨⟨rfl, fun _ h => h⟩, ?_⟩
  show Action.Keeps _ _ _ _ (if definition.isExpiredAt t.now then _ else _) _ tally t
  rw [hst.1, hunexpired, if_neg Bool.false_ne_true, hrequired]
  exact keeps_pure fun _ _ => ⟨rfl, rfl⟩

/-- **A fork keeps the agreement** while it resolves a feature that has not
expired and requires nothing. -/
theorem keeps_resolve {resolver : Resolver} (hgroups : resolver.consultsGroups = false)
    {registry : Registry} {ambient : Option Scope} {definition : Definition}
    (hdef : registry.get? feature = some definition)
    (hunexpired : definition.isExpiredAt s.now = false) (hrequired : definition.required = [])
    {context : Context} (hkey : resolver.keyUnder ambient context = key) :
    (resolver.resolve feature context).Keeps membership feature key
      (resolver.agreement feature key) (.start registry ambient) ⟨0, 0⟩ s := by
  unfold resolve
  refine keeps_modify_bind (keeps_work_bind ?_)
  dsimp only
  rw [resolveNested, resolveStep, contextKey]
  refine keeps_work_bind (keeps_work_bind ?_)
  dsimp only [Work.start]
  rw [hdef, hkey]
  refine keeps_bind (keeps_gateOpen hunexpired hrequired _ context key) ?_ ?_ ?_
  · rintro _ rfl
    exact ⟨Nat.le_refl 0, Nat.zero_le 1⟩
  · rintro _ isOpen _ t - ⟨rfl, hout⟩
    cases hout
    exact keeps_resolveOpen hgroups (Cache.get?_empty feature key) context definition
  · rintro _ _ _ t ⟨-, hout⟩
    cases hout

end Action

/-! ## The row -/

/-- **A request that spares a row**: if the row is there, the request neither
changes nor removes it. -/
def Spares (feature key : String) : Request → Prop
  | .store call => ∀ (rows : Rows) (payload : Payload),
      rows.get? feature key = some payload →
        (rows.answer call).2.get? feature key = some payload
  | _ => True

theorem Spares.allows {membership : Membership} {feature key : String} {request : Request}
    (h : Spares feature key request) (s : World Rows) :
    (racing membership feature key).Allows s
      ((World.answer Store.memory membership request).run s).2 := by
  cases request with
  | store call => exact ⟨rfl, h s.store⟩
  | _ => exact ⟨rfl, fun _ hrow => hrow⟩

/-- A first write that succeeds finds no row, and leaves one behind. -/
theorem exists_row_of_wrote {membership : Membership} {feature key : String}
    {request : Request} {s : World Rows}
    (h : wrote feature key
      ⟨request, ((World.answer Store.memory membership request).run s).1⟩) :
    s.store.get? feature key = none ∧ ∃ payload,
      ((World.answer Store.memory membership request).run s).2.store.get? feature key
        = some payload := by
  cases request with
  | store call =>
    cases call with
    | insert f k value =>
      change wrote feature key
        ⟨Request.store (.insert f k value), (s.store.answer (.insert f k value)).1⟩ at h
      show _ ∧ ∃ payload, (s.store.answer (.insert f k value)).2.get? feature key = some payload
      by_cases hat : f = feature ∧ k = key
      · obtain ⟨rfl, rfl⟩ := hat
        cases hrow : s.store.get? f k with
        | none =>
          refine ⟨rfl, value, ?_⟩
          rw [Rows.answer_insert_of_none hrow, Rows.get?_insert, if_pos ⟨rfl, rfl⟩]
        | some payload =>
          rw [Rows.answer_insert_of_some hrow] at h
          simp [wrote, insertReply?] at h
      · simp [wrote, insertReply?, hat] at h
    | _ => cases h
  | _ => cases h

/-- How often a row can still be written that does not exist. -/
def room (feature key : String) (s : World Rows) : Nat :=
  if (s.store.get? feature key).isSome then 0 else 1

/-- There is no more room later. -/
theorem room_le_of_allows {membership : Membership} {feature key : String} {s t : World Rows}
    (h : (racing membership feature key).Allows s t) : room feature key t ≤ room feature key s := by
  unfold room
  cases hrow : s.store.get? feature key with
  | none => split <;> simp
  | some payload => exact Nat.le_of_eq (by rw [h.2 payload hrow])

section Turns

variable {membership : Membership} {feature key : String}
  {pool : Pool interface (Except FeatureError FeatureValue × Work) (World Rows)}
  {promises : Nat → Promise (Except FeatureError FeatureValue × Work) (World Rows) Tally}
  {notes : Nat → Tally}

/-- **A turn takes up the room it writes to.** -/
theorem countP_wrote_add_room_le (h : pool.Keeps (racing membership feature key) promises notes)
    (i : Nat) :
    (((pool.exchange? (racing membership feature key).answer i).map
          fun exchange => (i, exchange)).toList).countP (fun turn => wrote feature key turn.2)
        + room feature key (pool.advance
            (Program.step (racing membership feature key).answer) i).state
      ≤ room feature key pool.state := by
  have hmono := room_le_of_allows (h.advance i).1
  cases hexchange : pool.exchange? (racing membership feature key).answer i with
  | none =>
    rw [Option.map_none, Option.toList_none, List.countP_nil, Nat.zero_add]
    exact hmono
  | some exchange =>
    rw [Option.map_some, Option.toList_some, List.countP_singleton]
    obtain ⟨call, rfl, hstate⟩ := Pool.exists_of_exchange? hexchange
    split
    · rename_i hwrote
      obtain ⟨hbefore, payload, hafter⟩ := exists_row_of_wrote hwrote
      have hone : room feature key pool.state = 1 := if_neg (by simp [hbefore])
      have hnone : room feature key (pool.advance
          (Program.step (racing membership feature key).answer) i).state = 0 := by
        rw [hstate]
        exact if_pos (Option.isSome_iff_exists.mpr ⟨payload, hafter⟩)
      exact Nat.le_of_eq (by rw [hone, hnone])
    · rw [Nat.zero_add]
      exact hmono

/-- **A row is written once at most**, and not at all if it exists. -/
theorem countP_wrote_le (h : pool.Keeps (racing membership feature key) promises notes)
    (schedule : List Nat) :
    (pool.history (racing membership feature key).answer schedule).countP
        (fun turn => wrote feature key turn.2)
      ≤ room feature key pool.state := by
  induction schedule generalizing pool notes with
  | nil => exact Nat.zero_le _
  | cons i rest ih =>
    unfold Pool.history
    rw [List.countP_append]
    exact Nat.le_trans (Nat.add_le_add_left (ih (h.advance i).2) _)
      (countP_wrote_add_room_le h i)

end Turns

/-! ## Races -/

/-- **The programs of a race**: forks that each resolve a feature for a context,
and whoever else is there. -/
def contenders (resolver : Resolver) (work : Work) (feature : String)
    (contexts : List Context) (bystanders : List Race.Fork) : List Race.Fork :=
  contexts.map (fun context => (resolver.resolve feature context).program work.fork)
    ++ bystanders

section Race

variable {resolver : Resolver} {membership : Membership} {work : Work} {feature key : String}
  {contexts : List Context} {bystanders : List Race.Fork} {definition : Definition}
  {world : World Rows}

/-- The forks of a race keep the agreement, and the bystanders leave the row
alone. -/
theorem keeps_contenders (membership : Membership)
    (hgroups : resolver.consultsGroups = false)
    (hdef : work.registry.get? feature = some definition)
    (hunexpired : definition.isExpiredAt world.now = false) (hrequired : definition.required = [])
    (hkeys : ∀ context ∈ contexts, resolver.keyUnder work.ambient context = key)
    (hspare : ∀ program ∈ bystanders, program.Only (Spares feature key)) :
    (Pool.mk (resolver.contenders work feature contexts bystanders) world).Keeps
      (racing membership feature key)
      (fun i => if i < contexts.length then resolver.agreement feature key
        else ⟨fun _ => True, fun _ _ _ => True⟩)
      fun _ => ⟨0, 0⟩ := by
  intro i program hi
  change (contexts.map _ ++ bystanders)[i]? = some program at hi
  dsimp only
  by_cases hlt : i < contexts.length
  · rw [if_pos hlt]
    rw [List.getElem?_append_left (by rwa [List.length_map]), List.getElem?_map] at hi
    obtain ⟨context, hcontext, rfl⟩ := Option.map_eq_some_iff.mp hi
    exact Action.keeps_resolve hgroups hdef hunexpired hrequired
      (hkeys context (List.mem_of_getElem? hcontext))
  · rw [if_neg hlt]
    rw [List.getElem?_append_right (by rw [List.length_map]; omega)] at hi
    exact (hspare program (List.mem_of_getElem? hi)).keeps
      (fun call hcall t => Spares.allows hcall t) _ _

/-- **First resolutions converge.** Forks resolve a feature for contexts with the
same key, each of them at its own pace, while nobody else changes or removes the
row.

* Every fork that is done has an answer, the value of the row.
* The row never changes, and is written once at most.
* The forks that reported a retry are those whose first write met a row, and
  each of them reported it once. -/
theorem first_resolutions_converge (resolver : Resolver) (membership : Membership)
    (work : Work) (feature key : String) (contexts : List Context)
    (bystanders : List Race.Fork) (definition : Definition) (world : World Rows)
    (hgroups : resolver.consultsGroups = false)
    (hdef : work.registry.get? feature = some definition)
    (hunexpired : definition.isExpiredAt world.now = false) (hrequired : definition.required = [])
    (hkeys : ∀ context ∈ contexts, resolver.keyUnder work.ambient context = key)
    (hspare : ∀ program ∈ bystanders, program.Only (Spares feature key))
    (schedule : List Nat) :
    let answer : (call : interface.Call) → StateM (World Rows) (interface.Reply call) :=
      World.answer Store.memory membership
    let start : Pool interface (Except FeatureError FeatureValue × Work) (World Rows) :=
      ⟨resolver.contenders work feature contexts bystanders, world⟩
    let now := start.follow answer schedule
    let history := start.history answer schedule
    (∀ i < contexts.length, ∀ outcome, now.programs[i]? = some (.done outcome) →
        ∃ payload, now.state.store.get? feature key = some payload
          ∧ outcome.1 = .ok (.ofPayload payload))
      ∧ (∀ payload, now.state.store.get? feature key = some payload → ∀ rest,
          (start.follow answer (schedule ++ rest)).state.store.get? feature key = some payload)
      ∧ history.countP (fun turn => wrote feature key turn.2)
          ≤ (if (world.store.get? feature key).isSome then 0 else 1)
      ∧ ∀ i < contexts.length,
          let exchanges := Pool.exchangesOf i history
          exchanges.countP (told feature key) ≤ exchanges.countP (met feature key)
            ∧ exchanges.countP (met feature key) ≤ 1
            ∧ ∀ outcome, now.programs[i]? = some (.done outcome) →
                exchanges.countP (told feature key)
                  = if resolver.isHeard then exchanges.countP (met feature key) else 0 := by
  intro answer start now history
  have hstart := keeps_contenders membership hgroups hdef hunexpired hrequired hkeys hspare
  obtain ⟨-, hnow⟩ := hstart.follow schedule
  have hfork : ∀ i < contexts.length, ∀ program, now.programs[i]? = some program →
      program.Keeps (racing membership feature key) (resolver.agreement feature key)
        ⟨(Pool.exchangesOf i history).countP (met feature key),
          (Pool.exchangesOf i history).countP (told feature key)⟩ now.state := by
    intro i hlt program hi
    have hnotes := Tally.foldl_note feature key (Pool.exchangesOf i history) ⟨0, 0⟩
    rw [Nat.zero_add, Nat.zero_add] at hnotes
    rw [← hnotes]
    have hkeeps := hnow i program hi
    dsimp only at hkeeps
    rw [if_pos hlt] at hkeeps
    exact hkeeps
  have hdone : ∀ i < contexts.length, ∀ outcome, now.programs[i]? = some (.done outcome) → _ :=
    fun i hlt outcome hi =>
      hfork i hlt _ hi now.state ((racing membership feature key).refl now.state)
  refine ⟨?_, ?_, ?_, ?_⟩
  · exact fun i hlt outcome hi => (hdone i hlt outcome hi).1
  · intro payload hrow rest
    rw [Pool.follow_append]
    exact (hnow.follow rest).1.2 payload hrow
  · exact countP_wrote_le hstart schedule
  · intro i hlt exchanges
    have hlength : i < (start.follow answer schedule).programs.length := by
      rw [Pool.length_programs_follow]
      show i < (contexts.map _ ++ bystanders).length
      rw [List.length_append, List.length_map]
      exact Nat.lt_add_right _ hlt
    obtain ⟨htold, hmet⟩ := (hfork i hlt _ (List.getElem?_eq_getElem hlength)).during
      (agreement_during resolver feature key)
    exact ⟨htold, hmet, fun outcome hi => (hdone i hlt outcome hi).2.2⟩

/-- Two forks take turns, each with a closure that comes out differently the
second time. Both want to write; both end with what one of them wrote. -/
theorem first_resolutions_converge_of_two :
    let definition : Definition := .ofRule "dark" (.closure ⟨0⟩)
    let registry : Registry := ⟨(∅ : Std.ExtTreeMap String Definition).insert "dark" definition⟩
    let start : Pool interface (Except FeatureError FeatureValue × Work) (World Rows) :=
      ⟨contenders ⟨.none, .standard, false, true, none⟩ (.start registry none) "dark"
        [.scalar "ada", .scalar "ada"] [], .start .epoch ∅ ⟨[(.counter "call ", 0)]⟩⟩
    let now := start.follow (World.answer Store.memory .none) (List.replicate 8 [0, 1]).flatten
    ∃ first second payload, now.programs = [.done first, .done second]
      ∧ now.state.store.get? "dark" "ada" = some payload
      ∧ first.1 = .ok (.ofPayload payload) ∧ second.1 = .ok (.ofPayload payload) := by
  intro definition registry start now
  have hdone : now.programs.map (·.result?.isSome) = [true, true] := by
    subst now start registry definition
    decide +kernel
  obtain ⟨hvalue, -⟩ := first_resolutions_converge ⟨.none, .standard, false, true, none⟩ .none
    (.start registry none) "dark" "ada" [.scalar "ada", .scalar "ada"] [] definition
    (.start .epoch ∅ ⟨[(.counter "call ", 0)]⟩) rfl (by simp [registry, Work.start, Registry.get?])
    rfl rfl (by decide +kernel) (by simp) (List.replicate 8 [0, 1]).flatten
  subst now start
  obtain ⟨p, rest, hprograms, hp, hrest⟩ := List.map_eq_cons_iff.mp hdone
  obtain ⟨q, rest, rfl, hq, hrest⟩ := List.map_eq_cons_iff.mp hrest
  obtain rfl := List.map_eq_nil_iff.mp hrest
  cases p with
  | ask => cases hp
  | done first =>
    cases q with
    | ask => cases hq
    | done second =>
      obtain ⟨payload, hrow, hfirst⟩ := hvalue 0 (by decide) first
        (congrArg (·[0]?) hprograms)
      obtain ⟨payload', hrow', hsecond⟩ := hvalue 1 (by decide) second
        (congrArg (·[1]?) hprograms)
      rw [hrow] at hrow'
      cases hrow'
      exact ⟨first, second, payload, hprograms, hrow, hfirst, hsecond⟩

end Race

end FeatureGate.Resolver
