import FeatureGate.Proofs.Nesting.Kept
import FeatureGate.Proofs.Persistence.Record

/-!
# A store that may fail

The store in memory never fails but for a first write that meets a row. Other stores do,
any time and with any error. What is relied on here is that a call which fails has done
nothing, and that one which does not is answered as the rows say (`Record.frail`). Groups
may fail too; whether anything fails at all is a parameter, so that what can be said of a
world where nothing does is said along with it.

This module says what becomes of one feature whose gate is open: its row is there, or is
read in vain, or is written for the first time, with the payload that its definition gives
(`Resolver.yields_resolveOpen_opened`).
-/

namespace FeatureGate

open Store (Rows)
open Resolver (Action Work)

namespace Record

/-- What a request and the reply to it say of the rows, where calls may fail: a call of the
store that does not is answered as in memory. -/
def Bears (mayFail : Prop) (before after : Record) : (request : Request) → request.Reply → Prop
  | .store call, reply =>
    (reply = (before.rows.answer call).1 ∧ after.rows = (before.rows.answer call).2)
      ∨ (mayFail ∧ (∃ error, reply = .error error) ∧ after.rows = before.rows)
  | .groupsFor _, reply => after.rows = before.rows ∧ ∀ error, reply = .error error → mayFail
  | .featuresIn _, reply => after.rows = before.rows ∧ ∀ error, reply = .error error → mayFail
  | _, _ => after.rows = before.rows

/-- **Anything may be asked**; the store answers as its rows say, or fails without effect. -/
def frail (mayFail : Prop) : Protocol Resolver.interface Record where
  Allows _ _ := True
  Gives before request reply after :=
    after.history = before.history ++ [⟨request, reply⟩] ∧ before.Bears mayFail after request reply

/-- **An exchange took place** between two moments. -/
def Asked (known later : Record) (exchange : Exchange Resolver.interface) : Prop :=
  ∃ rest, later.history = known.history ++ rest ∧ exchange ∈ rest

/-- **A definition was evaluated** for a context and its key, between two moments, with some
payload: it is the one that the definition has, or what a closure was asked for. -/
def Evaluated (known later : Record) (definition : Definition) (context : Context) (key : String)
    (payload : Payload) : Prop :=
  match definition.firstPayload key with
  | .inl closure => known.Asked later ⟨.compute closure context, payload⟩
  | .inr first => payload = first

/-- **A row was added**, which was wanting: it has what the definition was evaluated to. -/
def Adds (known later : Record) (definition : Definition) (context : Context)
    (feature key : String) : Prop :=
  ∃ payload, known.rows.get? feature key = none
    ∧ known.Evaluated later definition context key payload
    ∧ later.rows = known.rows.insert ⟨feature, key⟩ payload

variable {mayFail : Prop} {known middle later : Record} {definition : Definition}
  {context : Context} {feature key : String} {payload : Payload}
  {exchange : Exchange Resolver.interface} {request : Request} {reply : request.Reply}

theorem history_of_gives (h : (frail mayFail).Gives known request reply later) :
    known.history <+: later.history :=
  ⟨_, h.1.symm⟩

/-- Requests on the side have nothing to do with the rows. -/
theorem rows_of_aside (haside : request.IsAside)
    (h : (frail mayFail).Gives known request reply later) : later.rows = known.rows := by
  cases request with
  | clock | deliver event | warn warning => exact h.2
  | _ => exact haside.elim

/-- What is asked has been asked. -/
theorem Asked.of_gives (h : (frail mayFail).Gives known request reply later) :
    known.Asked later ⟨request, reply⟩ :=
  ⟨_, h.1, List.mem_singleton_self _⟩

theorem Asked.earlier (h : middle.Asked later exchange)
    (hhistory : known.history <+: middle.history) : known.Asked later exchange := by
  obtain ⟨rest, hlater, hmem⟩ := h
  obtain ⟨between, hmiddle⟩ := hhistory
  refine ⟨between ++ rest, ?_, List.mem_append_right _ hmem⟩
  rw [hlater, ← hmiddle, List.append_assoc]

theorem Asked.onward (h : known.Asked middle exchange)
    (hhistory : middle.history <+: later.history) : known.Asked later exchange := by
  obtain ⟨rest, hmiddle, hmem⟩ := h
  obtain ⟨between, hlater⟩ := hhistory
  refine ⟨rest ++ between, ?_, List.mem_append_left _ hmem⟩
  rw [← hlater, hmiddle, List.append_assoc]

theorem Evaluated.earlier (h : middle.Evaluated later definition context key payload)
    (hhistory : known.history <+: middle.history) :
    known.Evaluated later definition context key payload := by
  unfold Evaluated at h ⊢
  split at h
  · exact Asked.earlier h hhistory
  · exact h

theorem Evaluated.onward (h : known.Evaluated middle definition context key payload)
    (hhistory : middle.history <+: later.history) :
    known.Evaluated later definition context key payload := by
  unfold Evaluated at h ⊢
  split at h
  · exact Asked.onward h hhistory
  · exact h

/-- Whatever leaves the rows, and is asked later, makes no difference to a row that was added. -/
theorem Adds.onward (h : known.Adds middle definition context feature key)
    (hrows : later.rows = middle.rows) (hhistory : middle.history <+: later.history) :
    known.Adds later definition context feature key := by
  obtain ⟨payload, hnone, hevaluated, hmiddle⟩ := h
  exact ⟨payload, hnone, hevaluated.onward hhistory, hrows.trans hmiddle⟩

theorem Adds.earlier (h : middle.Adds later definition context feature key)
    (hrows : middle.rows = known.rows) (hhistory : known.history <+: middle.history) :
    known.Adds later definition context feature key := by
  obtain ⟨payload, hnone, hevaluated, hlater⟩ := h
  exact ⟨payload, hrows ▸ hnone, hevaluated.earlier hhistory, hrows ▸ hlater⟩

end Record

/-! ## Surroundings -/

/-- **What surrounds resolvers where calls may fail**: a store that answers as one in memory
does, or fails without effect, and others that have nothing to do with its rows. -/
structure FrailSurroundings (σ : Type) where
  /-- The answers to requests. -/
  answer : (request : Request) → StateM σ request.Reply
  /-- The rows of the store. -/
  rows : σ → Rows
  /-- The store answers as one in memory does, or fails and has done nothing. -/
  store (call : Store.Call) (s : σ) :
    (((answer (.store call)).run s).1 = ((rows s).answer call).1
      ∧ rows ((answer (.store call)).run s).2 = ((rows s).answer call).2)
    ∨ ((∃ error, ((answer (.store call)).run s).1 = .error error)
      ∧ rows ((answer (.store call)).run s).2 = rows s)
  /-- Nobody else changes its rows. -/
  other {request : Request} (h : ∀ call, request ≠ .store call) (s : σ) :
    rows ((answer request).run s).2 = rows s

namespace FrailSurroundings

variable {σ : Type} (around : FrailSurroundings σ)

/-- **The answers to requests, put on record.** -/
def recording (request : Request) :
    StateM (σ × List (Exchange Resolver.interface)) request.Reply :=
  Resolver.transcribing around.answer request

/-- The record of a state. -/
def record (s : σ × List (Exchange Resolver.interface)) : Record := .ofState around.rows s

theorem admits_recording :
    (Record.frail True).Admits around.recording fun known s => known = around.record s := by
  refine Record.admits_transcribing fun s history request => ⟨rfl, ?_⟩
  cases request with
  | store call => exact (around.store call s).imp_right fun h => ⟨trivial, h⟩
  | groupsFor key | featuresIn group =>
    exact ⟨around.other (by rintro _ ⟨⟩) s, fun _ _ => trivial⟩
  | _ => exact around.other (by rintro _ ⟨⟩) s

/-- **A world in which calls of the store fail** as they are told to: the errors lined up are for
one call after another, and a call for which there is none is carried out in memory. -/
def failing (membership : Membership) :
    FrailSurroundings (World Rows × List (Option StoreError)) where
  answer
    | .store call => fun s => match s.2 with
      | some error :: rest => (.error error, s.1, rest)
      | errors =>
        let replied := (World.answer Store.memory membership (.store call)).run s.1
        (replied.1, replied.2, errors.tail)
    | request => fun s =>
      let replied := (World.answer Store.memory membership request).run s.1
      (replied.1, replied.2, s.2)
  rows s := s.1.store
  store call s := by
    obtain ⟨world, errors⟩ := s
    match errors with
    | some error :: rest => exact .inr ⟨⟨error, rfl⟩, rfl⟩
    | none :: rest | [] => exact .inl ⟨rfl, rfl⟩
  other {request} h s := by
    cases request with
    | store call => exact absurd rfl (h call)
    | _ => rfl

end FrailSurroundings

namespace Resolver

variable {α β : Type} {mayFail : Prop} {resolver : Resolver} {feature key : String}
  {context : Context} {definition : Option Definition} {work after : Work}
  {known middle later : Record}

/-! ## Actions without an effect -/

/-- **A quiet end**: nothing has changed but the record, and if it is a failure then one that
there may be. -/
structure Quiet (mayFail : Prop) (work : Work) (known : Record) (result : Except FeatureError α)
    (after : Work) (later : Record) : Prop where
  /-- The unit of work is as it was. -/
  work : after = work
  /-- So are the rows. -/
  rows : later.rows = known.rows
  /-- The record goes on. -/
  history : known.history <+: later.history
  /-- There may be failures, if this is one. -/
  failure {error : FeatureError} : result = .error error → mayFail

namespace Quiet

/-- Whatever was to come of it, a failure is one. -/
theorem error {error : FeatureError}
    (h : Quiet mayFail work known (.error error : Except FeatureError β) after later) :
    Quiet mayFail work known (.error error : Except FeatureError α) after later :=
  ⟨h.work, h.rows, h.history, fun _ => h.failure rfl⟩

/-- What follows a quiet beginning. -/
theorem trans {begun : Except FeatureError β} {result : Except FeatureError α} {mid : Work}
    (hbegun : Quiet mayFail work known begun mid middle)
    (h : Quiet mayFail mid middle result after later) :
    Quiet mayFail work known result after later :=
  ⟨h.work.trans hbegun.work, h.rows.trans hbegun.rows, hbegun.history.trans h.history, h.failure⟩

end Quiet

/-- **A quiet action** always comes to a quiet end. -/
def Action.IsQuiet (mayFail : Prop) (action : Action α) : Prop :=
  ∀ work known, action.Yields (Record.frail mayFail) work known (Quiet mayFail work known)

namespace Action.IsQuiet

theorem pure (a : α) : (Pure.pure a : Action α).IsQuiet mayFail :=
  fun _ _ => .pure ⟨rfl, rfl, List.prefix_refl _, nofun⟩

theorem bind {first : Action β} {next : β → Action α} (hfirst : first.IsQuiet mayFail)
    (hnext : ∀ b, (next b).IsQuiet mayFail) : (first >>= next).IsQuiet mayFail := by
  intro work known
  refine (hfirst work known).bind (fun b after later hquiet => ?_) fun _ _ _ hquiet => hquiet.error
  exact (hnext b after later).mono fun _ _ _ h => hquiet.trans h

theorem ite {c : Prop} [Decidable c] {first second : Action α} (hfirst : first.IsQuiet mayFail)
    (hsecond : second.IsQuiet mayFail) : (if c then first else second).IsQuiet mayFail := by
  split
  · exact hfirst
  · exact hsecond

theorem contextKey_bind {next : String → Action α} (hnext : ∀ key, (next key).IsQuiet mayFail) :
    (resolver.contextKey context >>= next).IsQuiet mayFail :=
  fun work known => .contextKey_bind (hnext _ work known)

/-- **Requests on the side** change nothing. -/
theorem aside {request : Request} (haside : request.IsAside) : (ask request).IsQuiet mayFail :=
  fun _ _ => .ask trivial fun _ _ hgives => ⟨rfl, Record.rows_of_aside haside hgives,
    Record.history_of_gives hgives, nofun⟩

theorem emit (event : Event) : (resolver.emit event).IsQuiet mayFail := by
  unfold Resolver.emit
  exact ite (aside trivial) (pure _)

/-- A read of a row changes nothing, and has the row or fails. -/
theorem yields_get (feature key : String) (work : Work) (known : Record) :
    (askStore (.get feature key)).Yields (Record.frail mayFail) work known
      fun result after later => Quiet mayFail work known result after later
        ∧ ∀ row, result = .ok row → row = known.rows.get? feature key := by
  refine .askStore trivial fun reply later hgives => ?_
  have hhistory := Record.history_of_gives hgives
  rcases hgives.2 with ⟨rfl, hrows⟩ | ⟨hfail, ⟨error, rfl⟩, hrows⟩
  · exact ⟨⟨rfl, hrows, hhistory, nofun⟩, fun row hrow => (Except.ok.inj hrow).symm⟩
  · exact ⟨⟨rfl, hrows, hhistory, fun _ => hfail⟩, nofun⟩

theorem get (feature key : String) : (askStore (.get feature key)).IsQuiet mayFail :=
  fun work known => (yields_get feature key work known).mono fun _ _ _ h => h.1

/-- **Asking the groups for a value** changes nothing. -/
theorem firstGroupValue (groups : List String) :
    (resolver.firstGroupValue feature groups).IsQuiet mayFail := by
  induction groups with
  | nil => exact pure none
  | cons group rest ih =>
    intro work known
    unfold Resolver.firstGroupValue
    refine .ask_bind trivial fun reply later hgives => ?_
    have hasked : Quiet mayFail work known reply work later :=
      ⟨rfl, hgives.2.1, Record.history_of_gives hgives, hgives.2.2 _⟩
    cases reply with
    | error error => exact hasked.error
    | ok features =>
      refine .mono (ite (contextKey_bind fun key => bind (get feature key) fun row => ?_) ih work
        later) fun _ _ _ h => hasked.trans h
      cases row with
      | none => exact ih
      | some payload => exact ite (pure _) ih

theorem groupValue (feature key : String) :
    (resolver.groupValue feature key).IsQuiet mayFail := by
  unfold Resolver.groupValue
  refine ite (fun work known => ?_) (pure none)
  refine .ask_bind trivial fun reply later hgives => ?_
  have hasked : Quiet mayFail work known reply work later :=
    ⟨rfl, hgives.2.1, Record.history_of_gives hgives, hgives.2.2 _⟩
  cases reply with
  | error error => exact hasked.error
  | ok groups =>
    exact (firstGroupValue groups work later).mono fun _ _ _ h => hasked.trans h

end Action.IsQuiet

/-! ## Reading and first writes -/

/-- **The first payload** is what the definition is evaluated to. -/
theorem yields_firstPayload_evaluated (definition : Definition) (context : Context) (key : String)
    (work : Work) (known : Record) :
    (firstPayload definition context key).Yields (Record.frail mayFail) work known
      fun result after later => Quiet mayFail work known result after later
        ∧ ∀ payload, result = .ok payload →
          known.Evaluated later definition context key payload := by
  unfold firstPayload Record.Evaluated
  cases definition.firstPayload key with
  | inl closure =>
    refine .ask trivial fun reply later hgives => ?_
    refine ⟨⟨rfl, hgives.2, Record.history_of_gives hgives, nofun⟩, fun payload hpayload => ?_⟩
    obtain rfl := Except.ok.inj hpayload
    exact Record.Asked.of_gives hgives
  | inr first =>
    exact .pure ⟨⟨rfl, rfl, List.prefix_refl _, nofun⟩, fun _ h => (Except.ok.inj h).symm⟩

/-- **What becomes of the row of a feature** when its value is read or computed: nothing, or
it is added, and then there is a value. -/
structure Initialized (mayFail : Prop) (feature key : String) (context : Context)
    (definition : Option Definition) (work : Work) (known : Record)
    (result : Except FeatureError FeatureValue) (after : Work) (later : Record) : Prop where
  /-- The unit of work is as it was. -/
  work : after = work
  /-- A row was added, if anything has changed. -/
  rows : later.rows = known.rows ∨ (∃ value, result = .ok value)
    ∧ ∃ d, definition = some d ∧ known.Adds later d context feature key
  /-- The record goes on. -/
  history : known.history <+: later.history
  /-- There may be failures, if this is one. -/
  failure {error : FeatureError} : result = .error error → mayFail

theorem Quiet.initialized {result : Except FeatureError FeatureValue}
    (h : Quiet mayFail work known result after later) :
    Initialized mayFail feature key context definition work known result after later :=
  ⟨h.work, .inl h.rows, h.history, h.failure⟩

/-- What follows a quiet beginning. -/
theorem Initialized.of_quiet {result : Except FeatureError FeatureValue}
    {begun : Except FeatureError α} {mid : Work}
    (hbegun : Quiet mayFail work known begun mid middle)
    (h : Initialized mayFail feature key context definition mid middle result after later) :
    Initialized mayFail feature key context definition work known result after later := by
  obtain ⟨rfl, hrows, hhistory, -⟩ := hbegun
  refine ⟨h.work, ?_, hhistory.trans h.history, h.failure⟩
  rcases h.rows with hlater | ⟨hvalue, d, hd, hadds⟩
  · exact .inl (hlater.trans hrows)
  · exact .inr ⟨hvalue, d, hd, hadds.earlier hrows hhistory⟩

/-- A quiet action may come first. -/
theorem Initialized.bind {first : Action β} {next : β → Action FeatureValue}
    (hfirst : first.IsQuiet mayFail)
    (hnext : ∀ b work known, (next b).Yields (Record.frail mayFail) work known
      (Initialized mayFail feature key context definition work known)) (work : Work)
    (known : Record) :
    (first >>= next).Yields (Record.frail mayFail) work known
      (Initialized mayFail feature key context definition work known) := by
  refine (hfirst work known).bind (fun b mid middle hquiet => ?_)
    fun _ _ _ hquiet => hquiet.error.initialized
  exact (hnext b mid middle).mono fun _ _ _ h => h.of_quiet hquiet

/-- **A first write of a row that is wanting** writes it, or may fail and leave it. -/
theorem yields_insert_of_none {payload : Payload} (hnone : known.rows.get? feature key = none)
    (work : Work) :
    (askStore (.insert feature key payload)).Yields (Record.frail mayFail) work known
      fun result after later => after = work ∧ known.history <+: later.history
        ∧ (∀ error, result = .error error → mayFail ∧ later.rows = known.rows)
        ∧ ∀ done, result = .ok done → later.rows = known.rows.insert ⟨feature, key⟩ payload := by
  refine .askStore trivial fun reply later hgives => ?_
  refine ⟨rfl, Record.history_of_gives hgives, ?_⟩
  rcases hgives.2 with ⟨rfl, hlater⟩ | ⟨hfail, ⟨error, rfl⟩, hlater⟩
  · rw [Rows.answer_insert_of_none hnone] at hlater ⊢
    exact ⟨nofun, fun _ _ => hlater⟩
  · exact ⟨fun _ _ => ⟨hfail, hlater⟩, nofun⟩

/-- **The first payload is computed and stored**, where the row is wanting. -/
theorem yields_firstWrite {d : Definition} (hnone : known.rows.get? feature key = none)
    (context : Context) (work : Work) :
    (do let payload ← firstPayload d context key
        askStore (.insert feature key payload)
        return .ofPayload payload : Action FeatureValue).Yields (Record.frail mayFail) work known
      (Initialized mayFail feature key context (some d) work known) := by
  refine .bind (yields_firstPayload_evaluated d context key work known) ?_ ?_
  · rintro payload mid middle ⟨hquiet, hevaluated⟩
    have hnone' : middle.rows.get? feature key = none := hquiet.rows ▸ hnone
    refine .bind (yields_insert_of_none hnone' mid) ?_ ?_
    · rintro _ after later ⟨hafter, hhistory, -, hlater⟩
      have hpayload := (hevaluated _ rfl).onward hhistory
      exact ⟨hafter.trans hquiet.work, .inr ⟨⟨_, rfl⟩, d, rfl, payload, hnone, hpayload,
        hquiet.rows ▸ hlater _ rfl⟩, hquiet.history.trans hhistory, nofun⟩
    · rintro error after later ⟨hafter, hhistory, herror, -⟩
      obtain ⟨hfail, hlater⟩ := herror _ rfl
      exact ⟨hafter.trans hquiet.work, .inl (hlater.trans hquiet.rows),
        hquiet.history.trans hhistory, fun _ => hfail⟩
  · rintro error mid middle ⟨hquiet, -⟩
    exact hquiet.error.initialized

section Reading

variable (resolver : Resolver) (feature : String) (context : Context) (key : String)
  (definition : Option Definition)

/-- **The value is read, or computed and stored.** A row that is written was wanting when it
was read, and nobody else writes any. -/
theorem yields_readOrCompute_initialized (work : Work) (known : Record) :
    (resolver.readOrCompute feature context key definition).Yields (Record.frail mayFail) work
      known (Initialized mayFail feature key context definition work known) := by
  unfold readOrCompute
  refine .bind (Action.IsQuiet.yields_get feature key work known) ?_ ?_
  · rintro row mid middle ⟨hread, hrow⟩
    cases row with
    | some payload => exact ⟨hread.work, .inl hread.rows, hread.history, nofun⟩
    | none =>
      have hnone : middle.rows.get? feature key = none := hread.rows ▸ (hrow _ rfl).symm
      cases definition with
      | none =>
        exact (Action.IsQuiet.bind (.emit _) (fun _ => .pure _) mid middle).mono fun _ _ _ h =>
          h.initialized.of_quiet hread
      | some d =>
        exact (yields_firstWrite hnone context mid).mono fun _ _ _ h => h.of_quiet hread
  · rintro error mid middle ⟨hread, -⟩
    exact hread.error.initialized

/-- **The value is read, or computed and stored**, and once more after a conflict, before
which nothing was written. -/
theorem yields_readOrInitialize_initialized (work : Work) (known : Record) :
    (resolver.readOrInitialize feature context key definition).Yields (Record.frail mayFail) work
      known (Initialized mayFail feature key context definition work known) := by
  have hread : ∀ work known, (resolver.readOrCompute feature context key definition).Yields
      (Record.frail mayFail) work known
      (Initialized mayFail feature key context definition work known) :=
    yields_readOrCompute_initialized resolver feature context key definition
  have hattempt : (attempt (resolver.readOrCompute feature context key definition)).Yields
      (Record.frail mayFail) work known fun outcome after later => ∃ result, outcome = .ok result
        ∧ Initialized mayFail feature key context definition work known result after later :=
    .attempt ((hread work known).mono fun result _ _ h => ⟨result, rfl, h⟩)
  unfold readOrInitialize
  refine .bind hattempt ?_ ?_
  · rintro outcome mid middle ⟨_, ⟨⟩, h⟩
    cases outcome with
    | ok value => exact h
    | error error =>
      have hfirst : Quiet mayFail work known (.error error : Except FeatureError FeatureValue)
          mid middle := by
        refine ⟨h.work, h.rows.resolve_right ?_, h.history, h.failure⟩
        rintro ⟨⟨_, ⟨⟩⟩, -⟩
      dsimp only
      split
      · refine (Initialized.bind (Action.IsQuiet.aside ?_) (fun _ =>
          Initialized.bind (Action.IsQuiet.emit _) fun _ => hread) mid middle).mono
            fun _ _ _ hagain => hagain.of_quiet hfirst
        trivial
      · exact .throw h
  · rintro _ _ _ ⟨_, ⟨⟩, -⟩

end Reading

/-! ## Open features -/

/-- **What becomes of a feature whose gate is open**: its value is cached, if none was, and
its row is added, if it was wanting. Nothing else changes. -/
structure Opened (mayFail : Prop) (feature key : String) (context : Context)
    (definition : Option Definition) (work : Work) (known : Record)
    (result : Except FeatureError FeatureValue) (after : Work) (later : Record) : Prop where
  /-- Nothing of the unit of work has changed but the cache. -/
  kept : work.Kept after
  /-- A value was cached, if anything there has changed. -/
  cache : after.cache = work.cache ∨ work.cache.get? feature key = none
    ∧ ∃ value, after.cache = work.cache.put feature key value
  /-- A row was added, if any has changed. -/
  rows : later.rows = known.rows
    ∨ ∃ d, definition = some d ∧ known.Adds later d context feature key
  /-- The record goes on. -/
  history : known.history <+: later.history
  /-- There may be failures, if this is one. -/
  failure {error : FeatureError} : result = .error error → mayFail

theorem Initialized.opened {result : Except FeatureError FeatureValue}
    (h : Initialized mayFail feature key context definition work known result after later) :
    Opened mayFail feature key context definition work known result after later :=
  ⟨h.work ▸ .refl _, .inl (congrArg _ h.work), h.rows.imp_right And.right, h.history, h.failure⟩

/-- **A feature whose gate is open** is resolved: this is all that becomes of it. -/
theorem yields_resolveOpen_opened (resolver : Resolver) (feature : String) (context : Context)
    (key : String) (definition : Option Definition) (work : Work) (known : Record) :
    (resolver.resolveOpen feature context key definition).Yields (Record.frail mayFail) work known
      (Opened mayFail feature key context definition work known) := by
  unfold resolveOpen
  refine .get_bind ?_
  cases hcached : work.cache.get? feature key with
  | some value => exact ⟨.refl _, .inl rfl, .inl rfl, List.prefix_refl _, nofun⟩
  | none =>
    refine .bind (yields_readOrInitialize_initialized resolver feature context key definition work
      known) ?_ ?_
    · rintro own mid middle hread
      obtain rfl := hread.work
      -- whatever value is kept in the end, only the cache and the record have gone on
      have hkeep : ∀ (value : FeatureValue) {next : Record}, next.rows = middle.rows →
          middle.history <+: next.history → (do
            modifyCache (·.put feature key value)
            if definition.isSome then resolver.emit (.resolved feature key value)
            return value : Action FeatureValue).Yields (Record.frail mayFail) mid next
              (Opened mayFail feature key context definition mid known) := by
        intro value next hrows hhistory
        refine .modify_bind ((Action.IsQuiet.ite (.bind (.emit _) fun _ => .pure _) (.pure _) _
          _).mono fun _ after later hquiet => ?_)
        obtain rfl := hquiet.work
        have hrows' := hquiet.rows.trans hrows
        have hhistory' := hhistory.trans hquiet.history
        exact ⟨⟨rfl, rfl, rfl⟩, .inr ⟨hcached, value, rfl⟩,
          hread.rows.imp hrows'.trans fun ⟨_, d, hd, hadds⟩ =>
            ⟨d, hd, hadds.onward hrows' hhistory'⟩,
          hread.history.trans hhistory', hquiet.failure⟩
      dsimp only
      split
      · exact hkeep own rfl (List.prefix_refl _)
      · refine .bind (Action.IsQuiet.groupValue feature key mid middle) ?_ ?_
        · rintro inherited after next ⟨rfl, hrows, hhistory, -⟩
          exact hkeep _ hrows hhistory
        · rintro error after later hquiet
          obtain rfl := hquiet.work
          exact ⟨.refl _, .inl rfl, hread.rows.imp hquiet.rows.trans fun ⟨_, d, hd, hadds⟩ =>
            ⟨d, hd, hadds.onward hquiet.rows hquiet.history⟩,
            hread.history.trans hquiet.history, fun _ => hquiet.failure rfl⟩
    · rintro error mid middle hread
      exact hread.opened

end Resolver

end FeatureGate
