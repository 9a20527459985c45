import FeatureGate.Proofs.Nesting.Amid
import FeatureGate.Proofs.Persistence.Frail
import FeatureGate.Proofs.Transcript

/-!
# A first write is tried twice at most

A value that is not cached is looked up: the row is read, and written if there is
none. This is a *round*. The store may answer a round with a conflict, since somebody
else was faster, or for reasons of its own; then there is one more round, and no
third (`Resolver.lookups_retry_once`).

Nothing is assumed about the store here. It may answer each call as it likes, the
second time otherwise than the first, and the groups that are asked afterwards may
fail when the row is already written. Whatever happens, a resolution that fails leaves
nothing cached for the feature that was not, and reports no value of it.
-/

namespace FeatureGate

/-- A request by which groups are asked for a value of a feature. -/
def Request.IsInheritance (feature : String) : Request → Prop
  | .groupsFor _ | .featuresIn _ => True
  | .store (.get f _) => f = feature
  | _ => False

/-- A request that may follow a lookup: groups are asked, or a value is reported. -/
inductive Request.IsSequel (feature key : String) : Request → Prop
  /-- Groups are asked for a value. -/
  | inheritance {request : Request} :
    request.IsInheritance feature → IsSequel feature key request
  /-- A value is reported. -/
  | value (value : FeatureValue) : IsSequel feature key (.deliver (.resolved feature key value))

/-- A request that is about a feature and a context key: for a row of the feature, or to report
what becomes of it. -/
def Request.IsAbout (feature key : String) : Request → Prop
  | .store (.get f _) | .store (.insert f _ _) => f = feature
  | request => request.IsReportOf feature key

/-- What is reported is about one feature. -/
theorem Request.IsReportOf.not_isAbout {f feature key : String} {request : Request}
    (h : request.IsReportOf f key) (hne : f ≠ feature) : ¬ request.IsAbout feature key := by
  intro habout
  cases request with
  | deliver event =>
    cases event with
    | resolved | unknownFeatureResolved | raceRetried => exact hne (h.1.symm.trans habout.1)
    | _ => exact h
  | warn warning =>
    cases warning with
    | concurrentFirstWrite => exact hne (h.1.symm.trans habout.1)
    | _ => exact h
  | _ => exact h

namespace Resolver

open Resolver.Action (Maintains Yields)

variable {resolver : Resolver} {feature key : String} {context : Context}
  {definition : Option Definition} {work : Work}

/-! ## Rounds -/

/-- The exchange in which a row is read. -/
def rowRead (feature key : String) (reply : Except StoreError (Option Payload)) :
    Exchange interface :=
  ⟨.store (.get feature key), reply⟩

/-- The exchange in which a row is written for the first time. -/
def rowInsertion (feature key : String) (payload : Payload) (reply : Except StoreError Unit) :
    Exchange interface :=
  ⟨.store (.insert feature key payload), reply⟩

/-- **How a definition is evaluated** for a context and its key: the payload, and what was
asked for it. -/
inductive Evaluates (definition : Definition) (context : Context) (key : String) :
    Payload → List (Exchange interface) → Prop
  /-- The definition has a payload. -/
  | given {payload : Payload} : definition.firstPayload key = .inr payload →
    Evaluates definition context key payload []
  /-- A closure was asked for it. -/
  | computed {closure : Closure} (payload : Payload) :
    definition.firstPayload key = .inl closure →
    Evaluates definition context key payload [⟨.compute closure context, payload⟩]

/-- **A round of a lookup**: what was asked and replied, and what came of it. -/
structure Round where
  /-- What was asked and replied. -/
  transcript : List (Exchange interface)
  /-- What came of it. -/
  outcome : Except FeatureError FeatureValue

namespace Round

/-- Whether a round ended in a conflict. -/
def isConflict (round : Round) : Bool :=
  match round.outcome with
  | .ok _ => false
  | .error error => error.isConflict

/-- **How a round goes.** The row is read first; it is written only if there is none, and
only for a feature that is defined. -/
inductive IsMade (resolver : Resolver) (feature : String) (context : Context) (key : String)
    (definition : Option Definition) : Round → Prop
  /-- The row cannot be read. -/
  | unread (error : StoreError) : IsMade resolver feature context key definition
    ⟨[rowRead feature key (.error error)], .error (.store error)⟩
  /-- There is a row. -/
  | found (payload : Payload) : IsMade resolver feature context key definition
    ⟨[rowRead feature key (.ok (some payload))], .ok (.ofPayload payload)⟩
  /-- There is no row, and the feature is not defined. -/
  | unknown : definition = none → IsMade resolver feature context key definition
    ⟨rowRead feature key (.ok none) :: resolver.report (.unknownFeatureResolved feature key),
      .ok .undefined⟩
  /-- There is no row, and the first payload is to be written. -/
  | first {defined : Definition} {payload : Payload} {evaluation : List (Exchange interface)}
    (reply : Except StoreError Unit) : definition = some defined →
    Evaluates defined context key payload evaluation →
    IsMade resolver feature context key definition
      ⟨rowRead feature key (.ok none) :: (evaluation ++ [rowInsertion feature key payload reply]),
        (reply.mapError .store).map fun _ => .ofPayload payload⟩

end Round

/-- The first payload is what the definition is evaluated to. -/
theorem transcribes_firstPayload (defined : Definition) (context : Context) (key : String)
    (work : Work) :
    (firstPayload defined context key).Transcribes work fun result after transcript =>
      ∃ payload, result = .ok payload ∧ after = work
        ∧ Evaluates defined context key payload transcript := by
  unfold firstPayload
  cases hfirst : defined.firstPayload key with
  | inl closure =>
    exact .ask_bind fun payload => .pure ⟨payload, rfl, rfl, .computed payload hfirst⟩
  | inr payload => exact .pure ⟨payload, rfl, rfl, .given hfirst⟩

/-- **To read the row, or to compute and write it,** is a round. -/
theorem transcribes_readOrCompute (resolver : Resolver) (feature : String) (context : Context)
    (key : String) (definition : Option Definition) (work : Work) :
    (resolver.readOrCompute feature context key definition).Transcribes work
      fun result after transcript => after = work
        ∧ Round.IsMade resolver feature context key definition ⟨transcript, result⟩ := by
  unfold readOrCompute
  refine .askStore_bind (fun row => ?_) fun error => ⟨rfl, .unread error⟩
  cases row with
  | some payload => exact .pure ⟨rfl, .found payload⟩
  | none =>
    cases definition with
    | none => exact .emit_bind (.pure ⟨rfl, by simpa using .unknown rfl⟩)
    | some defined =>
      refine .bind (transcribes_firstPayload defined context key _) ?_ ?_
      · rintro payload _ evaluation ⟨_, ⟨⟩, rfl, hevaluates⟩
        exact .askStore_bind (fun _ => .pure ⟨rfl, .first (.ok ()) rfl hevaluates⟩)
          fun error => ⟨rfl, .first (.error error) rfl hevaluates⟩
      · rintro _ _ _ ⟨_, ⟨⟩, -⟩

/-! ## Lookups -/

/-- **A lookup**: one round, or two. -/
structure Lookup where
  /-- The first round. -/
  first : Round
  /-- The second one, if there is one. -/
  second : Option Round

namespace Lookup

/-- What comes of a lookup is what comes of its last round. -/
def outcome (lookup : Lookup) : Except FeatureError FeatureValue :=
  (lookup.second.getD lookup.first).outcome

/-- What a second round begins with: a warning and a report, and then what a round is. -/
def retry (resolver : Resolver) (feature key : String) (round : Round) :
    List (Exchange interface) :=
  ⟨.warn (.concurrentFirstWrite feature key), ()⟩
    :: (resolver.report (.raceRetried feature key) ++ round.transcript)

/-- **The transcript of a lookup.** -/
def transcript (lookup : Lookup) (resolver : Resolver) (feature key : String) :
    List (Exchange interface) :=
  lookup.first.transcript ++ (lookup.second.map (retry resolver feature key)).getD []

/-- **How a lookup goes**: there is a second round just if the first one ended in a
conflict. -/
structure IsMade (lookup : Lookup) (resolver : Resolver) (feature : String) (context : Context)
    (key : String) (definition : Option Definition) : Prop where
  /-- The first round goes as rounds do. -/
  first : lookup.first.IsMade resolver feature context key definition
  /-- So does the second one. -/
  second {round : Round} : lookup.second = some round →
    round.IsMade resolver feature context key definition
  /-- There is one just after a conflict. -/
  retried : lookup.second.isSome = lookup.first.isConflict

end Lookup

/-- **To read the row or to initialize it** is a lookup. -/
theorem transcribes_readOrInitialize (resolver : Resolver) (feature : String)
    (context : Context) (key : String) (definition : Option Definition) (work : Work) :
    (resolver.readOrInitialize feature context key definition).Transcribes work
      fun result after transcript => after = work ∧ ∃ lookup : Lookup,
        lookup.IsMade resolver feature context key definition
          ∧ result = lookup.outcome ∧ transcript = lookup.transcript resolver feature key := by
  have hround := resolver.transcribes_readOrCompute feature context key definition work
  have honce : ∀ {result : Except FeatureError FeatureValue} {transcript},
      Round.IsMade resolver feature context key definition ⟨transcript, result⟩ →
      Round.isConflict ⟨transcript, result⟩ = false → ∃ lookup : Lookup,
        lookup.IsMade resolver feature context key definition
          ∧ result = lookup.outcome ∧ transcript ++ [] = lookup.transcript resolver feature key :=
    fun hfirst hconflict => ⟨⟨_, none⟩, ⟨hfirst, nofun, hconflict.symm⟩, rfl, rfl⟩
  unfold readOrInitialize
  refine .attempt_bind hround ?_
  rintro outcome _ first ⟨rfl, hfirst⟩
  cases outcome with
  | ok value => exact .pure ⟨rfl, honce hfirst rfl⟩
  | error error =>
    cases hconflict : error.isConflict with
    | false =>
      dsimp only
      rw [if_neg (by rw [hconflict]; exact Bool.false_ne_true)]
      exact .throw ⟨rfl, honce hfirst hconflict⟩
    | true =>
      dsimp only
      rw [if_pos hconflict]
      refine .ask_bind fun _ => .emit_bind (hround.mono ?_)
      rintro result _ second ⟨rfl, hsecond⟩
      refine ⟨rfl, ⟨⟨first, .error error⟩, some ⟨second, result⟩⟩, ⟨hfirst, ?_, hconflict.symm⟩,
        rfl, rfl⟩
      rintro _ ⟨⟩
      exact hsecond

/-! ## What a lookup delivers -/

theorem Evaluates.delivered_eq_nil {defined : Definition} {payload : Payload}
    {evaluation : List (Exchange interface)}
    (h : Evaluates defined context key payload evaluation) : delivered evaluation = [] := by
  cases h <;> rfl

/-- All that a round may deliver is that the feature is unknown. -/
theorem Round.IsMade.eq_of_mem_delivered {round : Round} {event : Event}
    (h : round.IsMade resolver feature context key definition)
    (hmem : event ∈ delivered round.transcript) :
    event = .unknownFeatureResolved feature key := by
  cases h with
  | unread | found => exact absurd hmem List.not_mem_nil
  | unknown =>
    have hmem : event ∈ delivered (resolver.report (.unknownFeatureResolved feature key)) := hmem
    rw [delivered_report] at hmem
    split at hmem
    · exact List.mem_singleton.mp hmem
    · exact absurd hmem List.not_mem_nil
  | first reply _ hevaluates =>
    have hmem : event ∈ delivered (_ ++ [rowInsertion feature key _ reply]) := hmem
    rw [delivered_append, hevaluates.delivered_eq_nil] at hmem
    exact absurd hmem List.not_mem_nil

/-- **A lookup delivers a retry once**, if there is one and reports reach anybody, and nothing
else but that the feature is unknown. -/
theorem Lookup.IsMade.delivered_eq {lookup : Lookup}
    (h : lookup.IsMade resolver feature context key definition) :
    ∃ first second, delivered (lookup.transcript resolver feature key)
        = first ++ (if resolver.isHeard && lookup.second.isSome then [.raceRetried feature key]
            else []) ++ second
      ∧ ∀ event ∈ first ++ second, event = .unknownFeatureResolved feature key := by
  obtain ⟨first, second⟩ := lookup
  cases second with
  | none =>
    refine ⟨delivered first.transcript, [], ?_, ?_⟩
    · simp [Lookup.transcript]
    · intro event hmem
      rw [List.append_nil] at hmem
      exact h.first.eq_of_mem_delivered hmem
  | some second =>
    refine ⟨delivered first.transcript, delivered second.transcript, ?_, ?_⟩
    · have hretry : delivered (Lookup.retry resolver feature key second)
          = (if resolver.isHeard then [.raceRetried feature key] else [])
            ++ delivered second.transcript := by
        rw [← delivered_report, ← delivered_append]
        rfl
      simp [Lookup.transcript, hretry]
    · intro event hmem
      rcases List.mem_append.mp hmem with hfirst | hsecond
      · exact h.first.eq_of_mem_delivered hfirst
      · exact (h.second rfl).eq_of_mem_delivered hsecond

theorem Lookup.IsMade.count_raceRetried {lookup : Lookup}
    (h : lookup.IsMade resolver feature context key definition) :
    (delivered (lookup.transcript resolver feature key)).count (.raceRetried feature key)
      = if resolver.isHeard && lookup.second.isSome then 1 else 0 := by
  obtain ⟨first, second, hdelivered, hunknown⟩ := h.delivered_eq
  have hnone : ∀ events : List Event, (∀ event ∈ events, event ∈ first ++ second) →
      events.count (.raceRetried feature key) = 0 := by
    intro events hevents
    refine List.count_eq_zero.mpr fun hmem => ?_
    cases hunknown _ (hevents _ hmem)
  rw [hdelivered, List.count_append, List.count_append,
    hnone first fun _ => List.mem_append_left second,
    hnone second fun _ => List.mem_append_right first]
  split <;> simp

theorem Lookup.IsMade.resolved_notMem {lookup : Lookup}
    (h : lookup.IsMade resolver feature context key definition) (value : FeatureValue) :
    .resolved feature key value ∉ delivered (lookup.transcript resolver feature key) := by
  obtain ⟨first, second, hdelivered, hunknown⟩ := h.delivered_eq
  rw [hdelivered]
  intro hmem
  rcases List.mem_append.mp hmem with hmem | hsecond
  · rcases List.mem_append.mp hmem with hfirst | hretry
    · cases hunknown _ (List.mem_append_left second hfirst)
    · split at hretry
      · cases List.mem_singleton.mp hretry
      · exact absurd hretry List.not_mem_nil
  · cases hunknown _ (List.mem_append_right first hsecond)

/-! ## Open features -/

/-- **Asking the groups for a value** leaves the unit of work. -/
theorem transcribes_groupValue (resolver : Resolver) (feature key : String) (work : Work) :
    (resolver.groupValue feature key).Transcribes work fun _ after transcript =>
      OnlyAsks (Request.IsInheritance feature) transcript ∧ after = work := by
  have hasks : (resolver.groupValue feature key).Maintains (.transcript interface)
      fun _ => OnlyAsks (Request.IsInheritance feature) :=
    .groupValue (fun _ => OnlyAsks.ask trivial) (fun _ => OnlyAsks.askStore rfl) key
      (OnlyAsks.ask trivial)
  have hwork : (resolver.groupValue feature key).Maintains (asking fun _ => True)
      fun after _ => after = work :=
    .groupValue (fun _ _ _ h => .ask trivial fun _ _ _ => h)
      (fun _ _ _ h => .askStore trivial fun _ _ _ => h) key fun _ _ h => .ask trivial fun _ _ _ => h
  exact Yields.and_asking (hasks work [] .nil) (hwork work () rfl)

/-- **How an open feature is resolved**: from the cache, or by a lookup, after which groups may
be asked; only then is the value kept, and reported for a feature that is defined. -/
inductive Concludes (resolver : Resolver) (feature : String) (context : Context) (key : String)
    (definition : Option Definition) (work : Work) :
    Except FeatureError FeatureValue → Work → List (Exchange interface) → Prop
  /-- The value is cached. -/
  | cached {value : FeatureValue} : work.cache.get? feature key = some value →
    Concludes resolver feature context key definition work (.ok value) work []
  /-- The lookup fails. -/
  | failed {lookup : Lookup} {error : FeatureError} : work.cache.get? feature key = none →
    lookup.IsMade resolver feature context key definition → lookup.outcome = .error error →
    Concludes resolver feature context key definition work (.error error) work
      (lookup.transcript resolver feature key)
  /-- The groups fail, after the lookup. -/
  | disinherited {lookup : Lookup} {own : FeatureValue} {groups : List (Exchange interface)}
    (error : FeatureError) : work.cache.get? feature key = none →
    lookup.IsMade resolver feature context key definition → lookup.outcome = .ok own →
    OnlyAsks (Request.IsInheritance feature) groups →
    Concludes resolver feature context key definition work (.error error) work
      (lookup.transcript resolver feature key ++ groups)
  /-- The value is kept. -/
  | kept {lookup : Lookup} {own : FeatureValue} {groups : List (Exchange interface)}
    (value : FeatureValue) : work.cache.get? feature key = none →
    lookup.IsMade resolver feature context key definition → lookup.outcome = .ok own →
    OnlyAsks (Request.IsInheritance feature) groups →
    Concludes resolver feature context key definition work (.ok value)
      { work with cache := work.cache.put feature key value }
      (lookup.transcript resolver feature key ++ groups
        ++ if definition.isSome then resolver.report (.resolved feature key value) else [])

/-- **An open feature is resolved** as it should be, whatever is replied. -/
theorem transcribes_resolveOpen (resolver : Resolver) (feature : String) (context : Context)
    (key : String) (definition : Option Definition) (work : Work) :
    (resolver.resolveOpen feature context key definition).Transcribes work
      (Concludes resolver feature context key definition work) := by
  -- keeping the value and reporting it comes last, whoever it was found by
  have hkeep : ∀ (lookup : Lookup) (own : FeatureValue) (groups : List (Exchange interface))
      (value : FeatureValue), work.cache.get? feature key = none →
      lookup.IsMade resolver feature context key definition → lookup.outcome = .ok own →
      OnlyAsks (Request.IsInheritance feature) groups →
      (do modifyCache (·.put feature key value)
          if definition.isSome then resolver.emit (.resolved feature key value)
          return value : Action FeatureValue).Transcribes work fun result after rest =>
        Concludes resolver feature context key definition work result after
          (lookup.transcript resolver feature key ++ groups ++ rest) := by
    intro lookup own groups value hmiss hlookup hown hgroups
    refine .modify_bind ?_
    have hkept : Concludes resolver feature context key definition work _ _ _ :=
      .kept value hmiss hlookup hown hgroups
    split
    · rename_i hdefined
      rw [if_pos hdefined] at hkept
      exact .emit_bind (.pure (by simpa using hkept))
    · rename_i hundefined
      rw [if_neg hundefined] at hkept
      exact .pure hkept
  unfold resolveOpen
  refine .get_bind ?_
  cases hcached : work.cache.get? feature key with
  | some value => exact .pure (.cached hcached)
  | none =>
    dsimp only
    refine .bind (resolver.transcribes_readOrInitialize feature context key definition work) ?_ ?_
    · rintro own _ _ ⟨rfl, lookup, hlookup, hown, rfl⟩
      split
      · have hrest := hkeep lookup own [] own hcached hlookup hown.symm .nil
        rw [List.append_nil] at hrest
        exact hrest
      · refine .bind (resolver.transcribes_groupValue feature key _) ?_ ?_
        · rintro inherited _ groups ⟨hgroups, rfl⟩
          exact (hkeep lookup own groups _ hcached hlookup hown.symm hgroups).mono fun _ _ _ h => by
            simpa using h
        · rintro error _ groups ⟨hgroups, rfl⟩
          exact .disinherited error hcached hlookup hown.symm hgroups
    · rintro error _ _ ⟨rfl, lookup, hlookup, hfailed, rfl⟩
      exact .failed hcached hlookup hfailed.symm

section Concludes

variable {result : Except FeatureError FeatureValue} {after : Work}
  {transcript : List (Exchange interface)}

/-- An open feature that is not resolved after all leaves the unit of work, and nobody is told
of a value. -/
theorem Concludes.of_error
    (h : Concludes resolver feature context key definition work result after transcript)
    {error : FeatureError} (herror : result = .error error) :
    after = work ∧ ∀ value, .resolved feature key value ∉ delivered transcript := by
  cases h with
  | cached | kept => cases herror
  | failed _ hlookup => exact ⟨rfl, hlookup.resolved_notMem⟩
  | disinherited _ _ hlookup _ hgroups =>
    refine ⟨rfl, fun value => ?_⟩
    rw [delivered_append, hgroups.delivered_eq_nil fun _ => id, List.append_nil]
    exact hlookup.resolved_notMem value

/-- **What is asked of an open feature**: nothing if its value is cached, and else a lookup is
made. If the lookup fails, that is the end. -/
theorem Concludes.lookup
    (h : Concludes resolver feature context key definition work result after transcript) :
    ((work.cache.get? feature key).isSome ∧ transcript = [])
      ∨ work.cache.get? feature key = none ∧ ∃ (lookup : Lookup) (rest : List _),
        lookup.IsMade resolver feature context key definition
          ∧ transcript = lookup.transcript resolver feature key ++ rest
          ∧ OnlyAsks (Request.IsSequel feature key) rest
          ∧ ∀ error, lookup.outcome = .error error → result = .error error ∧ rest = [] := by
  have hasked : ∀ {groups : List (Exchange interface)},
      OnlyAsks (Request.IsInheritance feature) groups →
      OnlyAsks (Request.IsSequel feature key) groups :=
    fun hgroups => hgroups.mono fun _ => .inheritance
  cases h with
  | cached hcached => exact .inl ⟨by rw [hcached]; rfl, rfl⟩
  | @failed lookup error hmiss hlookup hfailed =>
    refine .inr ⟨hmiss, lookup, [], hlookup, (List.append_nil _).symm, .nil, fun _ herror => ?_⟩
    exact ⟨by rw [← hfailed, herror], rfl⟩
  | @disinherited lookup own groups error hmiss hlookup hown hgroups =>
    refine .inr ⟨hmiss, lookup, groups, hlookup, rfl, hasked hgroups, fun _ herror => ?_⟩
    cases hown.symm.trans herror
  | @kept lookup own groups value hmiss hlookup hown hgroups =>
    refine .inr ⟨hmiss, lookup, _, hlookup, List.append_assoc .., ?_, fun _ herror => ?_⟩
    · refine (hasked hgroups).append ?_
      split
      · exact .report (.value value)
      · exact .nil
    · cases hown.symm.trans herror

end Concludes

/-! ## Gates that spare a feature -/

/-- **A feature is spared**, for a context key: since some unit of work nothing was asked or
reported that is about it, and neither its definition nor what is cached of it has changed. -/
structure Spared (origin : Work) (feature key : String) (work : Work)
    (transcript : List (Exchange interface)) : Prop where
  /-- The definitions are the same. -/
  registry : work.registry = origin.registry
  /-- The ambient scope is the same. -/
  ambient : work.ambient = origin.ambient
  /-- What is cached of the feature is the same. -/
  cached : work.cache.get? feature key = origin.cache.get? feature key
  /-- Nothing was about it. -/
  asks : OnlyAsks (fun request => ¬ request.IsAbout feature key) transcript

namespace Spared

variable {origin : Work}

theorem ask {request : Request} (h : ¬ request.IsAbout feature key) :
    (ask request).Maintains (.transcript interface) (Spared origin feature key) := by
  refine fun work known hspared => .ask trivial ?_
  rintro reply _ rfl
  exact { hspared with asks := hspared.asks.append (.cons h .nil) }

theorem askStore {call : Store.Call} (h : ¬ (Request.store call).IsAbout feature key) :
    (askStore call).Maintains (.transcript interface) (Spared origin feature key) := by
  refine fun work known hspared => .askStore trivial ?_
  rintro reply _ rfl
  exact { hspared with asks := hspared.asks.append (.cons h .nil) }

/-- Gates spare a feature, apart from the calls behind them. -/
theorem indifferent (origin : Work) (feature key : String) (resolver : Resolver) :
    Indifferent (.transcript interface) (Spared origin feature key) resolver where
  guard _ h := ⟨h.registry, h.ambient, h.cached, h.asks⟩
  clock := ask id
  reportCycle _ _ := .reportCycle (ask id) fun _ => ask id

/-- **Any other feature** is resolved, once it is open, without touching this one. -/
theorem serves {f : String} (hne : f ≠ feature) :
    Maintains.Serves (.transcript interface) (Spared origin feature key) resolver f key where
  get := askStore hne
  insert _ := askStore hne
  compute _ _ := ask id
  inherit := .groupValue (fun _ => ask id) (fun _ => askStore hne) key (ask id)
  keep value := .modify fun work _ h => ⟨h.registry, h.ambient,
    ((work.cache.get?_put f key value feature key).trans (if_neg fun heq => hne heq.1)).trans
      h.cached, h.asks⟩
  report _ h := ask (h.not_isAbout hne)

/-- **A feature that requires others is spared** by all that is resolved while its frame is in
flight. -/
theorem amid {gated : Definition} (hdefined : origin.registry.get? feature = some gated)
    (hrequired : gated.required ≠ []) (context : Context) :
    let key := resolver.keyUnder origin.ambient context
    Amid (.transcript interface) (Spared origin feature key) resolver context
      [Guard.frame feature key] where
  toIndifferent := indifferent origin feature _ resolver
  resolveOpen := by
    intro f work known hspared hout
    rw [hspared.ambient, hspared.registry] at hout ⊢
    refine (serves ?_).resolveOpen context _
    rintro rfl
    exact hout gated hdefined hrequired List.mem_cons_self

end Spared

/-! ## Resolutions -/

/-- **How a resolution goes** that begins with some unit of work: the gate is passed, which
spares the feature, and then it is open, or there is no value but inactive. -/
inductive Resolves (resolver : Resolver) (feature : String) (context : Context) (key : String)
    (origin : Work) : Except FeatureError FeatureValue → Work → List (Exchange interface) → Prop
  /-- The gate is open. -/
  | opened {passing after : Work} {gate rest : List (Exchange interface)}
    {result : Except FeatureError FeatureValue} : Spared origin feature key passing gate →
    Concludes resolver feature context key (origin.registry.get? feature) passing result after
      rest →
    Resolves resolver feature context key origin result after (gate ++ rest)
  /-- The gate is closed, or fails. -/
  | closed {passing : Work} {gate : List (Exchange interface)}
    {result : Except FeatureError FeatureValue} : Spared origin feature key passing gate →
    (∀ value, result = .ok value → value = .inactive) →
    Resolves resolver feature context key origin result passing gate

/-- **A resolution goes** as it should, whatever is replied. -/
theorem transcribes_resolve (resolver : Resolver) (feature : String) (context : Context)
    (work : Work) :
    (resolver.resolve feature context).Transcribes work
      (Resolves resolver feature context (resolver.keyUnder work.ambient context) work) := by
  have hspared : Spared work feature (resolver.keyUnder work.ambient context)
      { work with guard := .empty } [] := ⟨rfl, rfl, rfl, .nil⟩
  unfold Resolver.resolve
  refine .modify_bind (.get_bind ?_)
  unfold resolveNested resolveStep
  refine .contextKey_bind (.get_bind ?_)
  dsimp only
  cases hdefined : work.registry.get? feature with
  | none =>
    refine (resolver.transcribes_resolveOpen feature context _ none _).mono fun _ _ _ h => ?_
    exact .opened hspared (by rw [hdefined]; exact h)
  | some gated =>
    refine .bind ((Spared.indifferent work feature _ resolver).gateOpen ?_ hspared) ?_ ?_
    · intro hrequired inside henter r below later hbelow hkept
      refine (Spared.amid hdefined hrequired context).resolveNested _ hbelow ?_
      rw [hkept.guard, Guard.frames_of_enter? henter]
      exact List.subset_append_right ..
    · rintro isOpen passing gate ⟨hpassing, -, -⟩
      cases isOpen with
      | false => exact .pure (by simpa using .closed hpassing (by rintro _ ⟨⟩; rfl))
      | true =>
        refine (resolver.transcribes_resolveOpen feature context _ (some gated) passing).mono
          fun _ _ _ h => .opened hpassing (by rw [hdefined]; exact h)
    · rintro error passing gate ⟨hpassing, -, -⟩
      exact .closed hpassing (by rintro _ ⟨⟩)

section Resolves

variable {result : Except FeatureError FeatureValue} {after : Work}
  {transcript : List (Exchange interface)}

theorem Spared.notMem_delivered {origin passing : Work} {gate : List (Exchange interface)}
    (h : Spared origin feature key passing gate) {event : Event}
    (hreport : (Request.deliver event).IsReportOf feature key) : event ∉ delivered gate :=
  fun hmem => h.asks.of_mem_delivered hmem hreport

/-- **A resolution that fails** leaves what is cached of the feature, and nobody is told of a
value. -/
theorem Resolves.of_error
    (h : Resolves resolver feature context key work result after transcript)
    {error : FeatureError} (herror : result = .error error) :
    (∀ value, .resolved feature key value ∉ delivered transcript)
      ∧ after.cache.get? feature key = work.cache.get? feature key := by
  cases h with
  | closed hspared => exact ⟨fun value => hspared.notMem_delivered ⟨rfl, rfl⟩, hspared.cached⟩
  | opened hspared hconcludes =>
    obtain ⟨rfl, hsilent⟩ := hconcludes.of_error herror
    refine ⟨fun value => ?_, hspared.cached⟩
    rw [delivered_append, List.mem_append, not_or]
    exact ⟨hspared.notMem_delivered ⟨rfl, rfl⟩, hsilent value⟩

/-- **A resolution makes one lookup** if its feature is open and not cached, and none
otherwise. -/
theorem Resolves.lookup
    (h : Resolves resolver feature context key work result after transcript) :
    ∃ gate opened, transcript = gate ++ opened
      ∧ OnlyAsks (fun request => ¬ request.IsAbout feature key) gate
      ∧ ((opened = [] ∧ ((work.cache.get? feature key).isSome
            ∨ ∀ value, result = .ok value → value = .inactive))
        ∨ work.cache.get? feature key = none ∧ ∃ (lookup : Lookup) (rest : List _),
          lookup.IsMade resolver feature context key (work.registry.get? feature)
            ∧ opened = lookup.transcript resolver feature key ++ rest
            ∧ OnlyAsks (Request.IsSequel feature key) rest
            ∧ (∀ error, lookup.outcome = .error error → result = .error error ∧ rest = [])
            ∧ (delivered transcript).count (.raceRetried feature key)
              = if resolver.isHeard && lookup.second.isSome then 1 else 0) := by
  cases h with
  | closed hspared hclosed =>
    exact ⟨_, [], (List.append_nil _).symm, hspared.asks, .inl ⟨rfl, .inr hclosed⟩⟩
  | @opened passing _ gate opened _ hspared hconcludes =>
    refine ⟨gate, opened, rfl, hspared.asks, ?_⟩
    rcases hconcludes.lookup with
      ⟨hcached, hnone⟩ | ⟨hmiss, lookup, rest, hlookup, rfl, hrest, hfailed⟩
    · rw [hspared.cached] at hcached
      exact .inl ⟨hnone, .inl hcached⟩
    · rw [hspared.cached] at hmiss
      refine .inr ⟨hmiss, lookup, rest, hlookup, rfl, hrest, hfailed, ?_⟩
      -- neither the gate nor what follows the lookup retries it
      have hgate : (delivered gate).count (.raceRetried feature key) = 0 :=
        List.count_eq_zero.mpr (hspared.notMem_delivered ⟨rfl, rfl⟩)
      have hsequel : (delivered rest).count (.raceRetried feature key) = 0 := by
        refine List.count_eq_zero.mpr fun hmem => ?_
        cases hrest.of_mem_delivered hmem with
        | inheritance hasked => exact hasked
      rw [delivered_append, delivered_append, List.count_append, List.count_append, hgate, hsequel,
        hlookup.count_raceRetried, Nat.zero_add, Nat.add_zero]

end Resolves

variable {σ : Type}

/-- **A first write is tried twice at most**, whoever replies, and whatever is replied.

* To read the row or to initialize it is one round, or two if the first one ended in a
  conflict, and its outcome is that of the last round. A retry is reported once, if there is
  one and reports reach anybody.
* To resolve a feature is to pass its gate, which is not about the feature, and then to look it
  up if it is open and not cached. If the lookup fails, so does the resolution, with its error
  and at once.
* A resolution that fails, there or later, reports no value of the feature and caches none. -/
theorem lookups_retry_once (answer : (request : Request) → StateM σ request.Reply)
    (resolver : Resolver) (feature : String) (context : Context) (work : Work) (s : σ) :
    (∀ (key : String) (definition : Option Definition), ∃ lookup : Lookup,
      lookup.IsMade resolver feature context key definition
        ∧ (resolver.readOrInitialize feature context key definition).course answer work s
          = ⟨lookup.outcome, work, lookup.transcript resolver feature key⟩
        ∧ (delivered (lookup.transcript resolver feature key)).count (.raceRetried feature key)
          = if resolver.isHeard && lookup.second.isSome then 1 else 0)
      ∧ let key := resolver.keyUnder work.ambient context
        let course := (resolver.resolve feature context).course answer work s
        (∃ gate opened, course.transcript = gate ++ opened
          ∧ OnlyAsks (fun request => ¬ request.IsAbout feature key) gate
          ∧ ((opened = [] ∧ ((work.cache.get? feature key).isSome
                ∨ ∀ value, course.result = .ok value → value = .inactive))
            ∨ work.cache.get? feature key = none ∧ ∃ (lookup : Lookup) (rest : List _),
              lookup.IsMade resolver feature context key (work.registry.get? feature)
                ∧ opened = lookup.transcript resolver feature key ++ rest
                ∧ OnlyAsks (Request.IsSequel feature key) rest
                ∧ (∀ error, lookup.outcome = .error error →
                  course.result = .error error ∧ rest = [])
                ∧ (delivered course.transcript).count (.raceRetried feature key)
                  = if resolver.isHeard && lookup.second.isSome then 1 else 0))
          ∧ ∀ error, course.result = .error error →
            (∀ value, .resolved feature key value ∉ delivered course.transcript)
              ∧ course.work.cache.get? feature key = work.cache.get? feature key := by
  refine ⟨fun key definition => ?_, ?_⟩
  · obtain ⟨hwork, lookup, hlookup, hresult, htranscript⟩ :=
      (resolver.transcribes_readOrInitialize feature context key definition work).course answer s
    exact ⟨lookup, hlookup, congr (congrArg₂ Course.mk hresult hwork) htranscript,
      hlookup.count_raceRetried⟩
  · have hresolves := (resolver.transcribes_resolve feature context work).course answer s
    exact ⟨hresolves.lookup, fun _ => hresolves.of_error⟩

/-- The first write is lost, so there is a second round, whose write is not. Then asking for
the groups fails: the retry was reported, and no value is, nor is one cached. -/
theorem lookups_retry_once_before_groups_fail :
    let resolver : Resolver := ⟨.none, .standard, true, true, none⟩
    let registry : Registry := ⟨(∅ : Std.ExtTreeMap String Definition).insert "dark"
      (.ofRule "dark" (.constant (.bool false)))⟩
    let answer := (FrailSurroundings.failing Membership.none.withoutGroups).answer
    let course := (resolver.resolve "dark" (.scalar "ada")).course answer (.start registry none)
      (.start .epoch ∅ ⟨[]⟩, [none, some (.conflict "dark" "ada")])
    delivered course.transcript = [.raceRetried "dark" "ada"]
      ∧ (∀ value, .resolved "dark" "ada" value ∉ delivered course.transcript)
      ∧ course.work.cache.get? "dark" "ada" = none := by
  intro resolver registry answer course
  have hfails : course.result = .error (.store (.backend "groups_for failed")) := rfl
  obtain ⟨-, -, hfailed⟩ := lookups_retry_once answer resolver "dark" (.scalar "ada")
    (.start registry none) (.start .epoch ∅ ⟨[]⟩, [none, some (.conflict "dark" "ada")])
  refine ⟨?_, hfailed _ hfails⟩
  subst course answer registry resolver
  decide +kernel

end Resolver

end FeatureGate
