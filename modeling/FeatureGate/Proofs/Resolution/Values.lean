import FeatureGate.Proofs.Running
import FeatureGate.Proofs.Store.Rows
import FeatureGate.Resolver.Resolve

/-!
# Where a value comes from

Once the gate of a feature is open, its value is the one in the cache, or else
the *own* value of the context – stored, computed and stored, or undefined –
completed by the groups of the context. This module says what these steps come
to when the store is in memory and nobody else uses it: the own value, what is
inherited from groups, and the state after resolving an open feature.

What is inherited is a function of the rows (`inherited`), and asking for it
changes nothing. So of the whole of resolving an open feature, the only changes
that matter later are one row, written if there was none, and one entry of the
cache. What gates do besides, to the frames in flight, comes first.
-/

namespace FeatureGate.Resolver

open Store (Rows)

/-! ## Frames in flight -/

/-- The state with other frames in flight. -/
def State.within {σ : Type} (s : State σ) (guard : Guard) : State σ :=
  ⟨{ s.work with guard }, s.world⟩

namespace Action

variable {σ : Type} {store : Store (StateM σ)} {membership : Membership}

theorem perform_enter (frame : String) (s : State σ) :
    (enter frame).perform store membership s
      = match s.work.guard.enter? frame with
        | some guard => (.ok true, s.within guard)
        | none => (.ok false, s) := by
  rw [enter, perform_bind, perform_get, andThen_ok]
  cases s.work.guard.enter? frame <;> rfl

end Action

/-! ## What a context inherits -/

/-- The first active value that rows hold for groups a feature is granted to; a
source of membership that fails ends the search. -/
def firstGranted (resolver : Resolver) (membership : Membership) (rows : Rows)
    (ambient : Option Scope) (feature : String) :
    List String → Except FeatureError (Option FeatureValue)
  | [] => .ok none
  | group :: rest => do
    let features ← membership.featuresIn group
    let row := rows.get? feature (resolver.keyUnder ambient (.group group))
    match if features.contains feature then row.map FeatureValue.ofPayload else none with
    | some (.active payload) => .ok (some (.active payload))
    | _ => resolver.firstGranted membership rows ambient feature rest

/-- **The value a context inherits from its groups**, if there is one. -/
def inherited (resolver : Resolver) (membership : Membership) (rows : Rows)
    (ambient : Option Scope) (feature key : String) :
    Except FeatureError (Option FeatureValue) :=
  if resolver.consultsGroups then do
    resolver.firstGranted membership rows ambient feature (← membership.groupsFor key)
  else .ok none

/-- **An own value completed by an inherited one**: an active value is not
replaced. -/
def completed (own : FeatureValue) (inherited : Except FeatureError (Option FeatureValue)) :
    Except FeatureError FeatureValue :=
  if own.isActive then .ok own else inherited.map (·.getD own)

/-- Without groups, an own value is complete. -/
theorem completed_of_no_groups {resolver : Resolver} (hgroups : resolver.consultsGroups = false)
    (membership : Membership) (rows : Rows) (ambient : Option Scope)
    (feature key : String) (own : FeatureValue) :
    completed own (resolver.inherited membership rows ambient feature key) = .ok own := by
  unfold inherited completed
  rw [hgroups]
  split
  · rfl
  · rfl

theorem firstGranted_cons (resolver : Resolver) (membership : Membership) (rows : Rows)
    (ambient : Option Scope) (feature group : String) (rest : List String) :
    resolver.firstGranted membership rows ambient feature (group :: rest)
      = (membership.featuresIn group).bind fun features =>
          match if features.contains feature then
            (rows.get? feature (resolver.keyUnder ambient (.group group))).map
              FeatureValue.ofPayload else none with
          | some (.active payload) => .ok (some (.active payload))
          | _ => resolver.firstGranted membership rows ambient feature rest := rfl

namespace Action

variable {membership : Membership} (resolver : Resolver)

theorem perform_firstGroupValue (feature : String) (groups : List String) (s : State Rows) :
    (resolver.firstGroupValue feature groups).perform Store.memory membership s
      = (resolver.firstGranted membership s.world.store s.work.ambient feature groups, s) := by
  induction groups with
  | nil => rfl
  | cons group rest ih =>
    rw [firstGroupValue, perform_bind, perform_ask_featuresIn, andThen_ok, firstGranted_cons]
    cases membership.featuresIn group with
    | error e => rfl
    | ok features =>
      by_cases hf : features.contains feature
      · simp only [hf, if_true, Except.bind]
        rw [perform_bind, perform_contextKey, andThen_ok, perform_bind, perform_get_memory,
          andThen_ok]
        cases s.world.store.get? feature
          (resolver.keyUnder s.work.ambient (.group group)) with
        | none => exact ih
        | some payload =>
          cases hv : FeatureValue.ofPayload payload <;> simp [hv, FeatureValue.isActive, ih]
      · simp only [hf, Except.bind]
        exact ih

/-- Asking for the inherited value changes nothing. -/
theorem perform_groupValue (feature key : String) (s : State Rows) :
    (resolver.groupValue feature key).perform Store.memory membership s
      = (resolver.inherited membership s.world.store s.work.ambient feature key, s) := by
  unfold groupValue inherited
  by_cases hg : resolver.consultsGroups
  · rw [if_pos hg, if_pos hg, perform_bind, perform_ask_groupsFor, andThen_ok]
    cases membership.groupsFor key with
    | error e => rfl
    | ok groups => exact perform_firstGroupValue resolver feature groups s
  · rw [if_neg hg, if_neg hg, perform_pure]

end Action

/-! ## The own value of a context -/

/-- **The own value that needs no write**: that of the row, or an undefined one
if there is neither a row nor a definition. -/
def persisted? (registry : Registry) (rows : Rows) (feature key : String) :
    Option FeatureValue :=
  match rows.get? feature key, registry.get? feature with
  | some payload, _ => some (.ofPayload payload)
  | none, none => some .undefined
  | none, some _ => none

/-- Only a defined feature without a row has no value yet. -/
theorem eq_none_of_persisted?_eq_none {registry : Registry} {rows : Rows} {feature key : String}
    (h : persisted? registry rows feature key = none) :
    rows.get? feature key = none ∧ ∃ definition, registry.get? feature = some definition := by
  unfold persisted? at h
  cases hrow : rows.get? feature key with
  | some payload => simp [hrow] at h
  | none =>
    cases hdef : registry.get? feature with
    | none => simp [hrow, hdef] at h
    | some definition => exact ⟨rfl, definition, rfl⟩

/-- **The state after a value was kept**, and reported if the feature is
defined. -/
def State.kept (s : State Rows) (resolver : Resolver) (feature key : String)
    (value : FeatureValue) (isDefined : Bool) : State Rows :=
  let after : State Rows := ⟨{ s.work with cache := s.work.cache.put feature key value }, s.world⟩
  if isDefined then after.told resolver (.resolved feature key value) else after

/-- **The state after a first write**: a row more, and perhaps a closure that
was called. -/
def State.firstWritten (s : State Rows) (definition : Definition) (feature : String)
    (context : Context) (key : String) : State Rows :=
  let computed := s.world.closures.firstPayload definition context key
  ⟨s.work, { s.world with
    store := s.world.store.insert ⟨feature, key⟩ computed.1
    closures := computed.2 }⟩

namespace Action

variable {membership : Membership} (resolver : Resolver)

theorem perform_firstPayload (definition : Definition) (context : Context) (key : String)
    (s : State Rows) :
    (firstPayload definition context key).perform Store.memory membership s
      = (.ok (s.world.closures.firstPayload definition context key).1,
          ⟨s.work, { s.world with
            closures := (s.world.closures.firstPayload definition context key).2 }⟩) := by
  unfold firstPayload Closures.firstPayload
  cases definition.firstPayload key with
  | inl closure => rfl
  | inr payload => rfl

theorem perform_readOrCompute_of_row {s : State Rows} {feature key : String}
    {payload : Payload} (h : s.world.store.get? feature key = some payload)
    (context : Context) (definition : Option Definition) :
    (resolver.readOrCompute feature context key definition).perform Store.memory membership s
      = (.ok (.ofPayload payload), s) := by
  unfold readOrCompute
  rw [perform_bind, perform_get_memory, andThen_ok, h]
  rfl

theorem perform_readOrCompute_undefined {s : State Rows} {feature key : String}
    (h : s.world.store.get? feature key = none) (context : Context) :
    (resolver.readOrCompute feature context key none).perform Store.memory membership s
      = (.ok .undefined, s.told resolver (.unknownFeatureResolved feature key)) := by
  rw [readOrCompute, perform_bind, perform_get_memory, andThen_ok, h]
  show ((resolver.emit _ >>= fun _ => pure .undefined : Action FeatureValue)).perform _ _ _ = _
  rw [perform_bind, perform_emit]
  rfl

theorem perform_readOrCompute_defined {s : State Rows} {feature key : String}
    (h : s.world.store.get? feature key = none) (context : Context)
    (definition : Definition) :
    (resolver.readOrCompute feature context key (some definition)).perform
        Store.memory membership s
      = (.ok (.ofPayload (s.world.closures.firstPayload definition context key).1),
          s.firstWritten definition feature context key) := by
  unfold readOrCompute
  rw [perform_bind, perform_get_memory, andThen_ok, h]
  show ((firstPayload definition context key >>= fun payload => do
    askStore (.insert feature key payload)
    return .ofPayload payload : Action FeatureValue)).perform _ _ _ = _
  rw [perform_bind, perform_firstPayload, andThen_ok, perform_bind,
    perform_insert_memory (by exact h), andThen_ok, perform_pure]
  rfl

/-- A first write that meets no rival is not repeated. -/
theorem perform_readOrInitialize_of_ok {s t : State Rows} {feature key : String}
    {context : Context} {definition : Option Definition} {value : FeatureValue}
    (h : (resolver.readOrCompute feature context key definition).perform
      Store.memory membership s = (.ok value, t)) :
    (resolver.readOrInitialize feature context key definition).perform
      Store.memory membership s = (.ok value, t) := by
  unfold readOrInitialize
  rw [perform_bind, perform_attempt, h]
  rfl

/-- **The own value that needs no write** is what is read, and reading it
changes nothing that counts. -/
theorem exists_perform_readOrInitialize {s : State Rows} {feature key : String}
    {own : FeatureValue}
    (h : persisted? s.work.registry s.world.store feature key = some own)
    (context : Context) :
    ∃ t, (resolver.readOrInitialize feature context key
        (s.work.registry.get? feature)).perform Store.memory membership s = (.ok own, t)
      ∧ s.Quiet t := by
  unfold persisted? at h
  cases hrow : s.world.store.get? feature key with
  | some payload =>
    rw [hrow] at h
    cases h
    exact ⟨s, perform_readOrInitialize_of_ok resolver
      (perform_readOrCompute_of_row resolver hrow context _), .refl s⟩
  | none =>
    cases hdef : s.work.registry.get? feature with
    | none =>
      rw [hrow, hdef] at h
      cases h
      exact ⟨_, perform_readOrInitialize_of_ok resolver
        (perform_readOrCompute_undefined resolver hrow context), .told s resolver _⟩
    | some definition => simp [hrow, hdef] at h

theorem perform_readOrInitialize_defined {s : State Rows} {feature key : String}
    (h : s.world.store.get? feature key = none) (context : Context)
    (definition : Definition) :
    (resolver.readOrInitialize feature context key (some definition)).perform
        Store.memory membership s
      = (.ok (.ofPayload (s.world.closures.firstPayload definition context key).1),
          s.firstWritten definition feature context key) :=
  perform_readOrInitialize_of_ok resolver
    (perform_readOrCompute_defined resolver h context definition)

/-! ## An open feature -/

theorem perform_resolveOpen_of_cached {s : State Rows} {feature key : String}
    {value : FeatureValue} (h : s.work.cache.get? feature key = some value)
    (context : Context) (definition : Option Definition) :
    (resolver.resolveOpen feature context key definition).perform Store.memory membership s
      = (.ok value, s) := by
  rw [resolveOpen, perform_bind, perform_get, andThen_ok, h]
  rfl

/-- **Resolving an open feature that is not cached** completes the own value
and keeps the result; where the groups cannot be asked, nothing is kept. -/
theorem perform_resolveOpen_of_own {s t : State Rows} {feature key : String}
    {own : FeatureValue} {context : Context} {definition : Option Definition}
    (hcache : s.work.cache.get? feature key = none)
    (hown : (resolver.readOrInitialize feature context key definition).perform
      Store.memory membership s = (.ok own, t)) :
    (resolver.resolveOpen feature context key definition).perform Store.memory membership s
      = match completed own
            (resolver.inherited membership t.world.store t.work.ambient feature key) with
        | .error e => (.error e, t)
        | .ok value => (.ok value, t.kept resolver feature key value definition.isSome) := by
  have hkeep : ∀ value : FeatureValue,
      (do modifyCache (·.put feature key value)
          if definition.isSome then resolver.emit (.resolved feature key value)
          return value : Action FeatureValue).perform Store.memory membership t
        = (.ok value, t.kept resolver feature key value definition.isSome) := by
    intro value
    rw [perform_bind, perform_modifyCache, andThen_ok]
    unfold State.kept
    cases definition.isSome
    · rfl
    · show (resolver.emit _ >>= fun _ => pure value : Action FeatureValue).perform _ _ _ = _
      rw [perform_bind, perform_emit]
      rfl
  rw [resolveOpen, perform_bind, perform_get, andThen_ok, hcache]
  show (resolver.readOrInitialize feature context key definition >>= _ :
    Action FeatureValue).perform _ _ _ = _
  rw [perform_bind, hown, andThen_ok]
  unfold completed
  cases ha : own.isActive
  · simp only [Bool.false_eq_true, if_false]
    rw [perform_bind, perform_groupValue]
    cases resolver.inherited membership t.world.store t.work.ambient feature key with
    | error e => rfl
    | ok value => exact hkeep _
  · exact hkeep own

end Action

namespace State

variable (s : State Rows) (resolver : Resolver) (feature key : String)

@[simp] theorem work_kept (value : FeatureValue) (isDefined : Bool) :
    (s.kept resolver feature key value isDefined).work
      = { s.work with cache := s.work.cache.put feature key value } := by
  cases isDefined <;> simp [kept]

@[simp] theorem now_kept (value : FeatureValue) (isDefined : Bool) :
    (s.kept resolver feature key value isDefined).world.now = s.world.now := by
  cases isDefined <;> simp [kept]

@[simp] theorem store_kept (value : FeatureValue) (isDefined : Bool) :
    (s.kept resolver feature key value isDefined).world.store = s.world.store := by
  cases isDefined <;> simp [kept]

@[simp] theorem closures_kept (value : FeatureValue) (isDefined : Bool) :
    (s.kept resolver feature key value isDefined).world.closures = s.world.closures := by
  cases isDefined <;> simp [kept]

end State

end FeatureGate.Resolver
