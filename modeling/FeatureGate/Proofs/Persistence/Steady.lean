import FeatureGate.Proofs.Persistence.Record
import FeatureGate.Proofs.Tasks

/-!
# Rows that stay as they are

Take a feature that is defined, and a context key. A resolver that consults no groups
keeps a value for them only if it is that of their row; and unless it is told to write
or to remove values, the row stays as it is once there is one, and comes from the one
evaluation made while there was none. This is an invariant of everything a resolver
does (`Resolver.Steady`).

A task that writes or removes values maintains it too, if the row turns out the same
after all.
-/

namespace FeatureGate

open Store (Rows)

/-- **A record on which a row is steady**, since some point. -/
structure Record.Steady (origin : Record) (feature key : String) (registry : Registry)
    (known : Record) : Prop where
  /-- The feature is defined. -/
  defined : (registry.get? feature).isSome
  /-- The row was not changed. -/
  continues : origin.Continues feature key known
  /-- What was evaluated was written. -/
  orderly : Orderly known.history

namespace Resolver

/-- **A row is steady**, and what is cached for it is its value. -/
structure Steady (origin : Record) (feature key : String) (work : Work) (known : Record) : Prop
    extends origin.Steady feature key work.registry known where
  /-- A value that is cached is that of the row. -/
  cached {value : FeatureValue} : work.cache.get? feature key = some value →
    known.Holds feature key value

namespace Steady

open Resolver.Action (Maintains Yields)

variable {α : Type} {resolver : Resolver} {origin known after : Record}
  {feature key f k : String} {context : Context} {work : Work} {request : Request}

/-- **A request that is no evaluation** leaves a row steady if the record goes on. -/
theorem exchange (h : Steady origin feature key work known) {reply : request.Reply}
    (hgives : Record.protocol.Gives known request reply after)
    (hcontinues : known.Continues feature key after) (hevaluates : ¬ request.IsEvaluation) :
    Steady origin feature key work after where
  defined := h.defined
  continues := h.continues.trans hcontinues
  orderly := hgives.1 ▸ .other h.orderly hevaluates
  cached hvalue := hcontinues.holds (h.cached hvalue)

theorem tolerant (origin : Record) (feature key : String) :
    Tolerant Record.protocol (Steady origin feature key) where
  guard _ h := { h with }
  allows _ _ := trivial
  gives request _ h haside hgives := by
    refine h.exchange hgives (Record.continues_of_gives hgives ?_) ?_ <;>
      cases request <;> first | exact haside.elim | nofun

theorem askStore {call : Store.Call} (hwrites : ¬ call.Writes ⟨feature, key⟩) :
    (askStore call).Maintains Record.protocol (Steady origin feature key) :=
  fun _ _ h => .askStore trivial fun _ _ hgives =>
    h.exchange hgives (Record.continues_of_gives hgives fun _ heq => by
      cases heq
      exact hwrites) not_false

/-- **To forget values** leaves a row steady. -/
theorem forget {change : Cache → Cache}
    (hforget : ∀ cache value, (change cache).get? feature key = some value →
      cache.get? feature key = some value) :
    (modifyCache change).Maintains Record.protocol (Steady origin feature key) :=
  .modify fun work _ h => { h with cached := fun hvalue => h.cached (hforget work.cache _ hvalue) }

/-! ## Reading and first writes -/

/-- **A value is found**, of which something is known, and a row is steady after it. -/
abbrev Finds (origin : Record) (feature key : String) (expected : FeatureValue → Record → Prop)
    (result : Except FeatureError FeatureValue) (after : Work) (known : Record) : Prop :=
  Steady origin feature key after known ∧ ∃ value, result = .ok value ∧ expected value known

/-- **The first write** of a row that is wanting succeeds, and leaves a row steady if the
record is orderly by then. -/
theorem insertFirst (h : Steady origin feature key work known) {before : Record}
    {payload : Payload} (hcontinues : known.Continues feature key before)
    (hrow : before.rows.get? f k = none)
    (horderly : ∀ {later : Record} {reply : Except StoreError Unit},
      Record.protocol.Gives before (.store (.insert f k payload)) reply later →
      Orderly later.history) :
    (do Resolver.askStore (.insert f k payload)
        return .ofPayload payload : Action FeatureValue).Yields Record.protocol work before
      (Finds origin feature key fun value known => known.Holds f k value) := by
  have hanswer := Rows.answer_insert_of_none hrow payload
  have hwritten : (Resolver.askStore (.insert f k payload)).Yields Record.protocol work before
      fun result after known => result = .ok () ∧ Steady origin feature key after known
        ∧ known.Holds f k (.ofPayload payload) := by
    refine .askStore trivial fun reply later hgives => ?_
    have hlater := hcontinues.trans (Record.continues_of_insert hgives hrow)
    refine ⟨?_, ⟨⟨h.defined, h.continues.trans hlater, horderly hgives⟩,
      fun hvalue => hlater.holds (h.cached hvalue)⟩, payload, ?_, rfl⟩
    · rw [hgives.2.1, hanswer]
      rfl
    · rw [hgives.2.2, hanswer, Rows.get?_insert, if_pos ⟨rfl, rfl⟩]
  refine .bind hwritten ?_ ?_
  · rintro _ _ _ ⟨-, hsteady, hholds⟩
    exact ⟨hsteady, _, rfl, hholds⟩
  · rintro _ _ _ ⟨⟨⟩, -⟩

/-- **A first value** is evaluated if there is no row, and is the value of the row from
then on. -/
theorem firstValue (h : Steady origin feature key work known)
    (hrow : known.rows.get? f k = none) (definition : Definition) :
    (do let payload ← firstPayload definition context k
        Resolver.askStore (.insert f k payload)
        return .ofPayload payload : Action FeatureValue).Yields Record.protocol work known
      (Finds origin feature key fun value known => known.Holds f k value) := by
  unfold firstPayload
  cases definition.firstPayload k with
  | inl closure =>
    refine .ask_bind trivial fun payload before hgives => ?_
    refine h.insertFirst (Record.continues_of_gives hgives nofun) (hgives.2 ▸ hrow)
      fun hlater => ?_
    rw [hlater.1, hgives.1, List.append_assoc]
    exact .evaluated _ _ _ _ _ _ h.orderly
  | inr payload =>
    refine h.insertFirst (.refl ..) hrow fun hlater => ?_
    rw [hlater.1]
    exact .other h.orderly not_false

/-- **Reading rows** leaves them as they are, and a row steady. -/
theorem read (h : Steady origin feature key work known) {call : Store.Call}
    {answer : call.Answer} (hanswer : known.rows.answer call = (.ok answer, known.rows))
    (hwrites : ¬ call.Writes ⟨feature, key⟩) :
    (Resolver.askStore call).Yields Record.protocol work known fun result after next =>
      result = .ok answer ∧ next.rows = known.rows ∧ Steady origin feature key after next := by
  refine .askStore trivial fun reply next hgives => ⟨?_, ?_, ?_⟩
  · rw [hgives.2.1, hanswer]
    rfl
  · rw [hgives.2.2, hanswer]
  · exact h.exchange hgives (Record.continues_of_gives hgives fun _ heq => by
      cases heq
      exact hwrites) not_false

/-- **Reading or computing** succeeds, and comes to the value of the row if the feature
is defined. -/
theorem readOrCompute (h : Steady origin feature key work known)
    (definition : Option Definition) :
    (resolver.readOrCompute f context k definition).Yields Record.protocol work known
      (Finds origin feature key fun value known => definition.isSome → known.Holds f k value) := by
  unfold Resolver.readOrCompute
  have hget : known.rows.answer (.get f k) = (.ok (known.rows.get? f k), known.rows) := rfl
  refine .bind (h.read hget not_false) ?_ ?_
  · rintro row _ next ⟨⟨⟩, hrows, hsteady⟩
    rw [← hrows]
    cases hrow : next.rows.get? f k with
    | some payload => exact ⟨hsteady, _, rfl, fun _ => ⟨payload, hrow, rfl⟩⟩
    | none =>
      cases definition with
      | none =>
        exact (tolerant ..).emit_bind hsteady fun _ hsteady => ⟨hsteady, _, rfl, nofun⟩
      | some definition =>
        exact (hsteady.firstValue hrow definition).mono
          fun _ _ _ ⟨hsteady, value, hresult, hholds⟩ =>
            ⟨hsteady, value, hresult, fun _ => hholds⟩
  · rintro _ _ _ ⟨⟨⟩, -⟩

theorem readOrInitialize (h : Steady origin feature key work known)
    (definition : Option Definition) :
    (resolver.readOrInitialize f context k definition).Yields Record.protocol work known
      (Finds origin feature key fun value known => definition.isSome → known.Holds f k value) := by
  unfold Resolver.readOrInitialize
  have hattempt : (attempt (resolver.readOrCompute f context k definition)).Yields
      Record.protocol work known fun outcome after known => Steady origin feature key after known
        ∧ ∃ value, outcome = .ok (.ok value) ∧ (definition.isSome → known.Holds f k value) := by
    refine .attempt ((h.readOrCompute definition).mono ?_)
    rintro _ _ _ ⟨hsteady, value, rfl, hholds⟩
    exact ⟨hsteady, value, rfl, hholds⟩
  refine .bind hattempt ?_ ?_
  · rintro _ _ _ ⟨hsteady, value, ⟨⟩, hholds⟩
    exact ⟨hsteady, value, rfl, hholds⟩
  · rintro _ _ _ ⟨-, _, ⟨⟩, -⟩

/-- **A value is kept** if it is that of the row, or of another one. -/
theorem put (h : Steady origin feature key work known) {value : FeatureValue}
    (hholds : f = feature → k = key → known.Holds f k value) :
    Steady origin feature key { work with cache := work.cache.put f k value } known := by
  refine { h with cached := fun {kept} hget => ?_ }
  rw [Cache.get?_put] at hget
  split at hget
  · rename_i hat
    obtain ⟨rfl, rfl⟩ := hat
    obtain ⟨⟩ := hget
    exact hholds rfl rfl
  · exact h.cached hget

/-- **A value is kept and reported**, and is told. -/
theorem keep (resolver : Resolver) (h : Steady origin feature key work known)
    {own : FeatureValue} (hholds : f = feature → k = key → known.Holds f k own)
    (definition : Option Definition) :
    (do Resolver.modifyCache (·.put f k own)
        if definition.isSome then
          resolver.emit (.resolved f k own)
        return own : Action FeatureValue).Yields Record.protocol work known
      (Finds origin feature key fun value known =>
        f = feature → k = key → known.Holds feature key value) := by
  have hkept := h.put hholds
  have hend : ∀ {known}, Steady origin feature key
        { work with cache := work.cache.put f k own } known →
      f = feature → k = key → known.Holds feature key own := by
    rintro known h rfl rfl
    exact h.cached (by rw [Cache.get?_put, if_pos ⟨rfl, rfl⟩])
  refine .modify_bind ?_
  dsimp only
  split
  · exact (tolerant ..).emit_bind hkept fun _ h => ⟨h, own, rfl, hend h⟩
  · exact ⟨hkept, own, rfl, hend hkept⟩

/-- **The value of an open feature** is that of the row, if it is the row in question. -/
theorem resolveOpen (h : Steady origin feature key work known)
    (hgroups : resolver.consultsGroups = false) {definition : Option Definition}
    (hdefinition : f = feature → definition.isSome) :
    (resolver.resolveOpen f context k definition).Yields Record.protocol work known
      (Finds origin feature key fun value known =>
        f = feature → k = key → known.Holds feature key value) := by
  unfold Resolver.resolveOpen
  rw [groupValue_of_no_groups hgroups]
  refine .get_bind ?_
  cases hcached : work.cache.get? f k with
  | some value =>
    refine ⟨h, value, rfl, ?_⟩
    rintro rfl rfl
    exact h.cached hcached
  | none =>
    refine .bind (h.readOrInitialize definition) ?_ ?_
    · rintro own work known ⟨hsteady, _, ⟨⟩, hholds⟩
      have hkeep := hsteady.keep resolver (fun hf _ => hholds (hdefinition hf)) definition
      dsimp only
      split
      · exact hkeep
      · exact hkeep
    · rintro _ _ _ ⟨-, _, ⟨⟩, -⟩

/-! ## Tasks that only read -/

variable (hgroups : resolver.consultsGroups = false)
include hgroups

theorem opens (origin : Record) (feature key : String) (context : Context) :
    Maintains.Opens Record.protocol (Steady origin feature key) resolver context
      fun _ => True where
  tolerant := tolerant ..
  required _ _ _ _ _ := trivial
  resolveOpen {f work _} _ h := by
    have hdefinition : f = feature → (work.registry.get? f).isSome := by
      rintro rfl
      exact h.defined
    exact fun _ _ h => (h.resolveOpen hgroups hdefinition).mono fun _ _ _ h => h.1

/-- **Resolving a feature**, this one or another, leaves a row steady. -/
theorem resolve (f : String) (context : Context) :
    (resolver.resolve f context).Maintains Record.protocol (Steady origin feature key) :=
  (opens hgroups origin feature key context).resolve trivial

/-- **Settling pairs** with what was read for them leaves a row steady. -/
theorem settlePairs (start : Record) (pairs : List (String × Context × String)) :
    ((pairs.zip (pairs.map fun pair => start.rows.get? pair.1 pair.2.2)).forM fun entry =>
        resolver.settle entry.1.1 entry.1.2.1 entry.1.2.2 entry.2 : Action Unit).Maintains
      Record.protocol (Steady start feature key) := by
  refine .settleAll fun pair _ => ?_
  obtain ⟨f, context, k⟩ := pair
  refine .settle (fun payload hactive => ?_) (forget fun cache value hget => ?_)
    (resolve hgroups f context)
  · refine .modify fun work known h => h.put ?_
    rintro rfl rfl
    obtain ⟨stored, hstored, hvalue⟩ := Option.map_eq_some_iff.mp hactive
    exact ⟨stored, h.continues.persists hstored, hvalue.symm⟩
  · rw [Cache.get?_forget] at hget
    exact (Option.ite_none_left_eq_some.mp hget).2

/-- **Loading** leaves a row steady: what was read in one go is still so when it is
settled. -/
theorem loadWith (skipCached : Bool) (features : List String) (contexts : List Context) :
    (resolver.loadWith skipCached features contexts).Maintains Record.protocol
      (Steady origin feature key) := by
  refine .loadWith fun work known h pairs _ => ?_
  have hanswer : known.rows.answer (.getMany (pairs.map fun pair => (pair.1, pair.2.2)))
      = (.ok (pairs.map fun pair => known.rows.get? pair.1 pair.2.2), known.rows) := by
    simp [Rows.answer, Function.comp_def]
  refine .bind (h.read hanswer not_false) ?_ ?_
  · rintro _ work start ⟨⟨⟩, hrows, hstart⟩
    -- from here on, what was read goes on to be so
    have hyields := settlePairs hgroups start pairs work start
      { hstart with continues := .refl .. }
    rw [hrows] at hyields
    exact hyields.mono fun _ _ _ h => { h with continues := hstart.continues.trans h.continues }
  · rintro _ _ _ ⟨⟨⟩, -⟩

/-- **Everything that tasks do which only read** leaves a row steady: the feature goes
on to be defined, in this way or another. -/
theorem reading (origin : Record) (feature key : String) :
    Maintains.Reading Record.protocol (Steady origin feature key) resolver where
  tolerant := tolerant ..
  resolve := resolve hgroups
  loadWith := loadWith hgroups
  stored := askStore not_false
  define {work _ definition registry} hdefine h := by
    refine { h with defined := ?_, cached := fun hvalue => ?_ }
    · dsimp only
      rw [Registry.get?_define hdefine]
      split
      · rfl
      · exact h.defined
    · exact h.cached (Cache.get?_of_forgetFeature hvalue)
  rescope _ h := { h with cached := fun hvalue => absurd hvalue (by simp) }
  flush h := { h with cached := fun hvalue => absurd hvalue (by simp) }

omit hgroups

/-! ## Writes that come to nothing -/

variable {row : Option Payload}

/-- **Steady, if the row is the same after all.** -/
abbrev IfSame (row : Option Payload) (origin : Record) (feature key : String) (work : Work)
    (known : Record) : Prop :=
  known.rows.get? feature key = row → Steady origin feature key work known

theorem tolerant_ifSame (row : Option Payload) (origin : Record) (feature key : String) :
    Tolerant Record.protocol (IfSame row origin feature key) where
  guard _ h hrow := { h hrow with }
  allows _ _ := trivial
  gives {_ known after} request _ h haside hgives hrow := by
    have hsame : after.rows = known.rows := by
      cases request <;> first | exact haside.elim | exact hgives.2
    exact (tolerant ..).gives request (h (hsame ▸ hrow)) haside hgives

/-- **A write** leaves a row steady if the row is the same after all, and if nothing is
cached by it but what was cached before, or what it wrote. -/
theorem overwrite {call : Store.Call} (hcall : ∀ f k payload, call ≠ .insert f k payload)
    {change : Cache → Cache}
    (hcache : ∀ cache (rows : Rows) value, (change cache).get? feature key = some value →
      cache.get? feature key = some value ∨ ∃ payload,
        (rows.answer call).2.get? feature key = some payload ∧ value = .ofPayload payload)
    (event : Event) (h : Steady origin feature key work known)
    (hrow : known.rows.get? feature key = row) :
    (resolver.overwrite call change event).Yields Record.protocol work known
      fun _ after known => IfSame row origin feature key after known := by
  have hwrite : ∀ reply, Record.isFirstWrite feature key ⟨.store call, reply⟩ = false := by
    intro reply
    cases call <;> first | rfl | exact absurd rfl (hcall _ _ _)
  have hwritten : (Resolver.askStore call).Yields Record.protocol work known
      fun _ after next => after = work ∧ next.rows = (known.rows.answer call).2
        ∧ IfSame row origin feature key work next :=
    .askStore trivial fun _ _ hgives => ⟨rfl, hgives.2.2, fun hsame => h.exchange hgives
      (.of_row_eq hgives (hwrite _) (hsame.trans hrow.symm)) not_false⟩
  refine .bind hwritten ?_ ?_
  · rintro _ _ next ⟨rfl, hrows, hnext⟩
    refine .modify_bind (Maintains.emit (tolerant_ifSame ..) _ _ _ fun hsame => ?_)
    refine { hnext hsame with cached := fun hvalue => ?_ }
    rcases hcache _ known.rows _ hvalue with hkept | ⟨payload, hwritten, hvalue⟩
    · exact (hnext hsame).cached hkept
    · exact ⟨payload, hrows ▸ hwritten, hvalue⟩
  · exact fun _ _ _ h => h.1 ▸ h.2.2

/-- A write that caches nothing leaves a row steady if the row is the same after all. -/
theorem overwrite_forget {call : Store.Call} (hcall : ∀ f k payload, call ≠ .insert f k payload)
    {change : Cache → Cache}
    (hforget : ∀ cache value, (change cache).get? feature key = some value →
      cache.get? feature key = some value)
    (event : Event) (h : Steady origin feature key work known)
    (hrow : known.rows.get? feature key = row) :
    (resolver.overwrite call change event).Yields Record.protocol work known
      fun _ after known => IfSame row origin feature key after known :=
  h.overwrite hcall (fun cache _ value hkept => .inl (hforget cache value hkept)) event hrow

theorem set (f : String) (context : Context) (value : Payload)
    (h : Steady origin feature key work known) (hrow : known.rows.get? feature key = row) :
    (resolver.set f context value).Yields Record.protocol work known
      fun _ after known => IfSame row origin feature key after known := by
  rw [set_eq_overwrite]
  refine .contextKey_bind (h.overwrite (by rintro _ _ _ ⟨⟩) (fun cache rows kept hkept => ?_) _
    hrow)
  refine (Cache.get?_written hkept).imp_right ?_
  rintro ⟨rfl, rfl, rfl⟩
  exact ⟨value, (Rows.get?_insert ..).trans (if_pos ⟨rfl, rfl⟩), rfl⟩

theorem setForAllContexts (f : String) (value : Payload)
    (h : Steady origin feature key work known) (hrow : known.rows.get? feature key = row) :
    (resolver.setForAllContexts f value).Yields Record.protocol work known
      fun _ after known => IfSame row origin feature key after known :=
  h.overwrite_forget (by rintro _ _ _ ⟨⟩) (fun _ _ => Cache.get?_of_forgetFeature) _ hrow

theorem delete (f : String) (context : Context)
    (h : Steady origin feature key work known) (hrow : known.rows.get? feature key = row) :
    (resolver.delete f context).Yields Record.protocol work known
      fun _ after known => IfSame row origin feature key after known :=
  .contextKey_bind (h.overwrite_forget (by rintro _ _ _ ⟨⟩)
    (fun _ _ => Cache.get?_of_forgetFeature) _ hrow)

theorem purge (features : Option (List String))
    (h : Steady origin feature key work known) (hrow : known.rows.get? feature key = row) :
    (resolver.purge features).Yields Record.protocol work known
      fun _ after known => IfSame row origin feature key after known := by
  rw [purge_eq_overwrite]
  refine h.overwrite_forget (by rintro _ _ _ ⟨⟩) (fun cache value hkept => ?_) _ hrow
  unfold Cache.purged at hkept
  cases features with
  | none => exact absurd hkept (by simp)
  | some names =>
    rw [Cache.get?_foldl_forgetFeature] at hkept
    exact (Option.ite_none_left_eq_some.mp hkept).2

theorem purgeExpired (h : Steady origin feature key work known)
    (hrow : known.rows.get? feature key = row) :
    resolver.purgeExpired.Yields Record.protocol work known
      fun _ after known => IfSame row origin feature key after known := by
  unfold Resolver.purgeExpired
  refine .ask_bind trivial fun now next hgives => .get_bind ?_
  have hnext := (tolerant ..).gives .clock h trivial hgives
  have hsame : next.rows.get? feature key = row := hgives.2 ▸ hrow
  dsimp only
  split
  · exact .bind (hnext.purge _ hsame) (fun _ _ _ h => h) fun _ _ _ h => h
  · exact fun _ => hnext

end Steady

end Resolver

end FeatureGate
