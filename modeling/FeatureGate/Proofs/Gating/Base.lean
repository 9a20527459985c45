import FeatureGate.Proofs.Gating.Fixpoint
import FeatureGate.Proofs.Resolution.Purity
import FeatureGate.Proofs.Resolution.Values

/-!
# The values behind the gates

The value a feature comes out with if its gate is open (`Resolver.baseValue`),
as a function of the state: the cached value, or else the own value – stored,
computed or undefined – replaced by an inherited one if it is not active.

Resolving an open feature gives just that value. It may write a row and fill
the cache on the way, but only with what it would have computed again: no value
of any feature for the same context is another one after it
(`Resolver.Unmoved`).
-/

namespace FeatureGate.Resolver

open Store (Rows)

/-! ## What a context inherits, from a source that does not fail -/

/-- The active value of a row. -/
def activeRow (rows : Rows) (feature key : String) : Option FeatureValue :=
  ((rows.get? feature key).map .ofPayload).filter (·.isActive)

/-- **The first active value of a group** that a context belongs to and the
feature is granted to. -/
def granted (resolver : Resolver) (source : Source) (rows : Rows) (ambient : Option Scope)
    (feature key : String) : Option FeatureValue :=
  if resolver.consultsGroups then
    (source.groupsFor key).findSome? fun group =>
      if (source.featuresIn group).contains feature then
        activeRow rows feature (resolver.keyUnder ambient (.group group))
      else none
  else none

theorem firstGranted_source (resolver : Resolver) (source : Source) (rows : Rows)
    (ambient : Option Scope) (feature : String) (groups : List String) :
    resolver.firstGranted source.membership rows ambient feature groups
      = .ok (groups.findSome? fun group =>
          if (source.featuresIn group).contains feature then
            activeRow rows feature (resolver.keyUnder ambient (.group group))
          else none) := by
  induction groups with
  | nil => rfl
  | cons group rest ih =>
    rw [firstGranted_cons, ih, List.findSome?_cons]
    show Except.bind (.ok (source.featuresIn group)) _ = _
    unfold Except.bind
    by_cases hf : (source.featuresIn group).contains feature
    · simp only [if_pos hf]
      unfold activeRow
      cases rows.get? feature (resolver.keyUnder ambient (.group group)) with
      | none => rfl
      | some payload =>
        cases hv : FeatureValue.ofPayload payload <;>
          simp [hv, FeatureValue.isActive, Option.filter]
    · simp only [if_neg hf]

/-- Asking a source that does not fail gives what is granted. -/
theorem inherited_source (resolver : Resolver) (source : Source) (rows : Rows)
    (ambient : Option Scope) (feature key : String) :
    resolver.inherited source.membership rows ambient feature key
      = .ok (resolver.granted source rows ambient feature key) := by
  unfold inherited granted
  split
  · exact resolver.firstGranted_source source rows ambient feature _
  · rfl

/-- A row that is not active, where there was none, is not seen by those who
look for active ones. -/
theorem activeRow_insert {rows : Rows} {written key : String} {payload : Payload}
    {feature : String}
    (h : written = feature →
      rows.get? written key = none ∧ (FeatureValue.ofPayload payload).isActive = false)
    (key' : String) :
    activeRow (rows.insert ⟨written, key⟩ payload) feature key'
      = activeRow rows feature key' := by
  unfold activeRow
  rw [Rows.get?_insert]
  by_cases hat : written = feature ∧ key = key'
  · obtain ⟨rfl, rfl⟩ := hat
    obtain ⟨hrow, hinactive⟩ := h rfl
    simp [hrow, hinactive]
  · rw [if_neg hat]

theorem granted_insert (resolver : Resolver) (source : Source) {rows : Rows}
    {written key : String} {payload : Payload} {feature : String}
    (h : written = feature →
      rows.get? written key = none ∧ (FeatureValue.ofPayload payload).isActive = false)
    (ambient : Option Scope) (key' : String) :
    resolver.granted source (rows.insert ⟨written, key⟩ payload) ambient feature key'
      = resolver.granted source rows ambient feature key' := by
  unfold granted
  simp only [activeRow_insert h]

/-! ## The value of an open feature -/

/-- **The own value of a context**: of its row, of the first payload of the
definition, or undefined. -/
def ownValue (s : State Rows) (context : Context) (feature key : String) : FeatureValue :=
  match s.world.store.get? feature key, s.work.registry.get? feature with
  | some payload, _ => .ofPayload payload
  | none, some definition =>
    .ofPayload (s.world.closures.firstPayload definition context key).1
  | none, none => .undefined

/-- An own value that needs no write is that of the row, or undefined. -/
theorem ownValue_of_persisted? {s : State Rows} {feature key : String} {own : FeatureValue}
    (h : persisted? s.work.registry s.world.store feature key = some own) (context : Context) :
    ownValue s context feature key = own := by
  unfold persisted? at h
  unfold ownValue
  split at h <;> simp_all

/-- **The row of a context once its own value was asked for**: the one that there is, or
what is computed and written if there is none. -/
def ownRow (s : State Rows) (context : Context) (feature key : String) : Option Payload :=
  match s.world.store.get? feature key, s.work.registry.get? feature with
  | none, some definition => some (s.world.closures.firstPayload definition context key).1
  | row, _ => row

/-- **The row of a context once a feature was resolved** whose gate is open: nothing is
written if its value is cached. -/
def lastingRow (resolver : Resolver) (context : Context) (s : State Rows) (feature : String) :
    Option Payload :=
  let key := resolver.keyUnder s.work.ambient context
  match s.work.cache.get? feature key with
  | some _ => s.world.store.get? feature key
  | none => ownRow s context feature key

/-- **The value of a feature if its gate is open**: from the cache, or its own
one, replaced by one that is granted if it is not active. -/
def baseValue (resolver : Resolver) (source : Source) (context : Context) (s : State Rows)
    (feature : String) : FeatureValue :=
  let key := resolver.keyUnder s.work.ambient context
  match s.work.cache.get? feature key with
  | some value => value
  | none =>
    let own := ownValue s context feature key
    if own.isActive then own
    else (resolver.granted source s.world.store s.work.ambient feature key).getD own

/-- **The gates of a state**, for a context. -/
def gates (resolver : Resolver) (source : Source) (context : Context) (s : State Rows) :
    Gates where
  registry := s.work.registry
  now := s.world.now
  base := resolver.baseValue source context s

/-- **States between which nothing moved** that an answer for the context
depends on: what was written or kept is what would be computed again. -/
structure Unmoved (resolver : Resolver) (source : Source) (context : Context)
    (s t : State Rows) : Prop where
  /-- The ambient scope is the same. -/
  ambient : t.work.ambient = s.work.ambient
  /-- The same frames are in flight. -/
  guard : t.work.guard = s.work.guard
  /-- The definitions, the time and the values of all features are the same. -/
  gates : resolver.gates source context t = resolver.gates source context s
  /-- The closures are functions of the context still. -/
  pure : t.world.closures.ArePure

namespace Unmoved

variable {resolver : Resolver} {source : Source} {context : Context} {s t u : State Rows}

theorem refl (h : s.world.closures.ArePure) : resolver.Unmoved source context s s :=
  ⟨rfl, rfl, rfl, h⟩

theorem trans (hst : resolver.Unmoved source context s t)
    (htu : resolver.Unmoved source context t u) : resolver.Unmoved source context s u :=
  ⟨htu.ambient.trans hst.ambient, htu.guard.trans hst.guard, htu.gates.trans hst.gates,
    htu.pure⟩

theorem registry (h : resolver.Unmoved source context s t) :
    t.work.registry = s.work.registry :=
  congrArg Gates.registry h.gates

/-- What is reported moves nothing. -/
theorem of_quiet (h : s.Quiet t) (hpure : s.world.closures.ArePure) :
    resolver.Unmoved source context s t := by
  obtain ⟨hwork, hstore, hnow, hclosures⟩ := h
  refine ⟨by rw [hwork], by rw [hwork], ?_, by rwa [hclosures]⟩
  unfold Resolver.gates baseValue ownValue
  rw [hwork, hstore, hnow, hclosures]

/-- Neither does keeping the value of a feature. -/
theorem kept (hpure : s.world.closures.ArePure) {feature key : String}
    (hkey : resolver.keyUnder s.work.ambient context = key) {value : FeatureValue}
    (hvalue : resolver.baseValue source context s feature = value) (isDefined : Bool) :
    resolver.Unmoved source context s (s.kept resolver feature key value isDefined) := by
  have hbase : resolver.baseValue source context (s.kept resolver feature key value isDefined)
      = resolver.baseValue source context s := by
    funext other
    by_cases hother : feature = other
    · subst hother
      rw [hvalue]
      unfold baseValue
      simp [hkey, Cache.get?_put]
    · unfold baseValue ownValue
      simp [Cache.get?_put, hother]
  refine ⟨by simp, by simp, ?_, by simpa using hpure⟩
  simp [Resolver.gates, hbase]

/-- Neither does a first write: the row holds what would be computed again, and
if that is active it hides what is granted. -/
theorem firstWritten (hpure : s.world.closures.ArePure) {feature key : String}
    (hkey : resolver.keyUnder s.work.ambient context = key) {definition : Definition}
    (hdefined : s.work.registry.get? feature = some definition)
    (hrow : s.world.store.get? feature key = none) :
    resolver.Unmoved source context s (s.firstWritten definition feature context key) := by
  have hown : ∀ other, ownValue (s.firstWritten definition feature context key) context
      other key = ownValue s context other key := by
    intro other
    unfold ownValue State.firstWritten
    simp only [Rows.get?_insert, and_true]
    by_cases hother : feature = other
    · subst hother
      rw [if_pos rfl, hrow, hdefined]
    · rw [if_neg hother]
      simp only [hpure.firstPayload_firstPayload]
  refine ⟨rfl, rfl, ?_, hpure.firstPayload definition context key⟩
  refine congrArg (Gates.mk s.work.registry s.world.now) (funext fun other => ?_)
  unfold baseValue
  rw [show (s.firstWritten definition feature context key).work = s.work from rfl, hkey]
  dsimp only
  cases s.work.cache.get? other key with
  | some value => rfl
  | none =>
    dsimp only
    rw [hown other]
    cases hactive : (ownValue s context other key).isActive with
    | true => rfl
    | false =>
      -- a group inherits nothing new from itself, since its own value is not active
      refine congrArg (Option.getD · _) (granted_insert resolver source ?_ _ _)
      rintro rfl
      refine ⟨hrow, ?_⟩
      unfold ownValue at hactive
      rwa [hrow, hdefined] at hactive

end Unmoved

/-- **A feature is settled** for a context: there is a value for it in the cache. -/
def State.Settles (resolver : Resolver) (context : Context) (s : State Rows) (feature : String) :
    Prop :=
  (s.work.cache.get? feature (resolver.keyUnder s.work.ambient context)).isSome

/-- **What resolving an open feature leaves behind**: nothing moved, and there is its row,
and a value for it in the cache. -/
structure Leaves (resolver : Resolver) (source : Source) (context : Context) (feature : String)
    (s t : State Rows) : Prop extends resolver.Unmoved source context s t where
  /-- First payloads are the same. -/
  payload (definition : Definition) (key : String) :
    (t.world.closures.firstPayload definition context key).1
      = (s.world.closures.firstPayload definition context key).1
  /-- A value is cached besides those that were. -/
  cached (f key : String) : (t.work.cache.get? f key).isSome
    ↔ (s.work.cache.get? f key).isSome
      ∨ (f = feature ∧ key = resolver.keyUnder s.work.ambient context)
  /-- A row may be there besides those that were. -/
  row (f key : String) : t.world.store.get? f key
    = if f = feature ∧ key = resolver.keyUnder s.work.ambient context then
        resolver.lastingRow context s feature
      else s.world.store.get? f key

/-- An open feature is settled once it is resolved. -/
theorem Leaves.settles {resolver : Resolver} {source : Source} {context : Context}
    {feature : String} {s t : State Rows} (h : resolver.Leaves source context feature s t) :
    t.Settles resolver context feature :=
  (h.cached _ _).mpr (.inr ⟨rfl, by rw [h.ambient]⟩)

end FeatureGate.Resolver
