import Mathlib.Data.List.Chain
import FeatureGate.Proofs.Nesting.Depth
import FeatureGate.Proofs.Nesting.Watched

/-!
# The discipline of frames in flight

An onlooker who sees what a resolution asks and the marks set in it (`Sight`) can tell
which calls are in progress and which frames are in flight. What can be seen of any
resolution, whatever it is told, is a protocol (`discipline`): the frames are those of a
path of requirements from the feature asked for, a call leaves them as it found them, and
a cycle is reported only if there is one.

The proof goes down with the calls. What is known where a call begins is the path above
it (`Descent`); entering the feature prolongs the path by one, and since features with
requirements are on it once at most, the nesting that is allowed for is never used up.
-/

namespace FeatureGate.Resolver

open Relation (TransGen)

/-! ## What is seen -/

/-- **What an onlooker knows** of a resolution. -/
structure Sight where
  /-- The calls in progress, innermost first: the feature of each, and the frames that
  were in flight when it began. -/
  calls : List (String × List String)
  /-- The frames in flight. -/
  frames : List String

/-- Nothing is in progress or in flight. -/
def Sight.none : Sight := ⟨[], []⟩

/-- What is known after a request or a mark. -/
def Sight.after (sight : Sight) : Request ⊕ Mark → Sight
  | .inr (.begins feature frames) => { sight with calls := (feature, frames) :: sight.calls }
  | .inr (.ends ..) => { sight with calls := sight.calls.tail }
  | .inr (.moves frames) => { sight with frames }
  | .inl _ => sight

/-- **Frames as they may be in flight** while a feature is asked for: those of a path of
requirements that begins with it, for one context key, and all of them different. -/
def Stacked (registry : Registry) (asked key : String) (frames : List String) : Prop :=
  ∃ path : List String, frames = path.map (Guard.frame · key) ∧ frames.Nodup
    ∧ (∀ first ∈ path.head?, first = asked) ∧ path.IsChain registry.Requires

/-- **An honest report of a cycle.** -/
structure IsHonest (registry : Registry) (key feature : String) (path frames : List String) :
    Prop where
  /-- The path is all that is in flight. -/
  whole : path = frames
  /-- The frame of the feature is met again. -/
  met : Guard.frame feature key ∈ path
  /-- The innermost feature in flight requires it. -/
  last : ∃ last, path.getLast? = some (Guard.frame last key) ∧ registry.Requires last feature
  /-- It requires itself, directly or through others. -/
  cycle : TransGen registry.Requires feature feature

/-- **The discipline of a resolution**, for the feature asked for and a context key.

* At any moment the frames in flight are those of a path of requirements.
* Where a call begins, no more calls are in progress than there are features that require
  others.
* Where a call ends, it is the innermost one, and leaves the frames as it found them.
* A cycle is reported honestly. -/
def discipline (registry : Registry) (asked key : String) :
    Protocol (interface.watched Mark) Sight where
  Allows sight seen := Stacked registry asked key sight.frames ∧ match seen with
    | .inl (.deliver (.cycleDetected feature path)) =>
      IsHonest registry key feature path sight.frames
    | .inl _ => True
    | .inr (.begins _ frames) =>
      frames = sight.frames ∧ sight.calls.length ≤ registry.gatedCount
    | .inr (.ends feature frames) =>
      frames = sight.frames ∧ sight.calls.head? = some (feature, frames)
    | .inr (.moves frames) => Stacked registry asked key frames
  Gives sight seen _ after := after = sight.after seen

/-! ## The path above a call -/

/-- **The path above a call** that is about to begin: the features in flight, from the
one asked for down to one that requires the feature of the call. -/
structure Descent (registry : Registry) (asked key : String) (path : List String)
    (feature : String) (sight : Sight) : Prop where
  /-- The frames in flight are those of the path. -/
  frames : sight.frames = path.map (Guard.frame · key)
  /-- No feature is on the path twice. -/
  nodup : path.Nodup
  /-- The path begins with the feature asked for. -/
  first : (path ++ [feature]).head? = some asked
  /-- Each feature requires the next one. -/
  chain : (path ++ [feature]).IsChain registry.Requires
  /-- For each feature on the path there is a call in progress. -/
  calls : sight.calls.length = path.length

namespace Descent

variable {registry : Registry} {asked key feature : String} {path : List String} {sight : Sight}

theorem stacked (h : Descent registry asked key path feature sight) :
    Stacked registry asked key sight.frames := by
  refine ⟨path, h.frames, ?_, ?_, h.chain.left_of_append⟩
  · rw [h.frames]
    exact h.nodup.map (Guard.frame_injective key)
  · intro first hfirst
    have hasked := h.first
    rw [List.head?_append, hfirst] at hasked
    exact Option.some.inj hasked

/-- Every feature on the path requires the feature, directly or through others. -/
theorem requires (h : Descent registry asked key path feature sight) {p : String}
    (hp : p ∈ path) : TransGen registry.Requires p feature := by
  have hpairwise := List.isChain_iff_pairwise.mp (h.chain.imp fun _ _ => TransGen.single)
  exact (List.pairwise_append.mp hpairwise).2.2 p hp feature (List.mem_singleton_self _)

theorem length_le (h : Descent registry asked key path feature sight) :
    path.length ≤ registry.gatedCount := by
  -- what the time and the values of features are makes no difference
  let gates : Gates := ⟨registry, .epoch, fun _ => .inactive⟩
  exact gates.length_le_gatedCount h.nodup fun p hp => h.requires hp

/-- A frame that is met again is on a cycle. -/
theorem isHonest (h : Descent registry asked key path feature sight)
    (hmet : Guard.frame feature key ∈ sight.frames) :
    IsHonest registry key feature sight.frames sight.frames := by
  have hmem : feature ∈ path := by
    rwa [h.frames, List.mem_map_of_injective (Guard.frame_injective key)] at hmet
  have hlast := List.getLast?_eq_getLast_of_ne_nil (List.ne_nil_of_mem hmem)
  refine ⟨rfl, hmet, ⟨path.getLast (List.ne_nil_of_mem hmem), ?_, ?_⟩, h.requires hmem⟩
  · rw [h.frames, List.getLast?_map, hlast]
    rfl
  · exact (List.isChain_append.mp h.chain).2.2 _ hlast _ rfl

/-- **Entering a feature** prolongs the path to what it requires. -/
theorem enter (h : Descent registry asked key path feature sight)
    (hnew : Guard.frame feature key ∉ sight.frames) {r : String}
    (hr : registry.Requires feature r) {frames : List String} :
    Descent registry asked key (path ++ [feature]) r
      ⟨(feature, frames) :: sight.calls, sight.frames ++ [Guard.frame feature key]⟩ := by
  refine ⟨?_, ?_, ?_, ?_, ?_⟩
  · rw [List.map_append, h.frames]
    rfl
  · refine List.concat_eq_append ▸ h.nodup.concat fun hmem => hnew ?_
    rw [h.frames]
    exact List.mem_map_of_mem hmem
  · rw [List.head?_append, h.first]
    rfl
  · refine h.chain.append (.singleton r) fun last hlast first hfirst => ?_
    rw [List.getLast?_append] at hlast
    cases hlast
    cases hfirst
    exact hr
  · rw [List.length_append, List.length_cons, h.calls]
    rfl

end Descent

/-- **Where a call begins**: below a path, with a unit of work that has the definitions,
makes the key of the context, and has the frames in flight that are seen. -/
structure Begins (resolver : Resolver) (context : Context) (registry : Registry)
    (asked key : String) (path : List String) (feature : String) (work : Work) (sight : Sight) :
    Prop extends Descent registry asked key path feature sight where
  /-- The definitions. -/
  defines : work.registry = registry
  /-- The key of the context. -/
  keys : resolver.keyUnder work.ambient context = key
  /-- The frames in flight. -/
  guards : sight.frames = work.guard.frames

/-- **A call for what a feature requires** begins one further down. -/
theorem Begins.enter {resolver : Resolver} {context : Context} {registry : Registry}
    {asked key feature : String} {path : List String} {work below : Work} {sight : Sight}
    (h : Begins resolver context registry asked key path feature work sight) {inside : Guard}
    (henter : work.guard.enter? (Guard.frame feature key) = some inside)
    {definition : Definition} (hdef : work.registry.get? feature = some definition) {r : String}
    (hr : r ∈ definition.required) (hkept : Work.Kept { work with guard := inside } below)
    (found : List String) :
    Begins resolver context registry asked key (path ++ [feature]) r below
      ⟨(feature, found) :: sight.calls, inside.frames⟩ := by
  have hnew : Guard.frame feature key ∉ sight.frames :=
    h.guards ▸ Guard.notMem_of_enter? henter
  have hinside : inside.frames = sight.frames ++ [Guard.frame feature key] :=
    h.guards ▸ Guard.frames_of_enter? henter
  refine ⟨?_, hkept.registry.trans h.defines, ?_, ?_⟩
  · rw [hinside]
    exact h.toDescent.enter hnew ⟨definition, h.defines ▸ hdef, hr⟩
  · rw [hkept.ambient]
    exact h.keys
  · rw [hkept.guard]

/-! ## Whatever is told, the discipline is kept -/

section Follows

variable {registry : Registry} {asked key : String} {sight : Sight} {origin : Work}

/-- **What is done between marks** keeps the discipline, if the only cycles that are
reported there are reported honestly. -/
theorem follows_watched {α : Type} {allowed : Request → Prop} {action : Action α} {work : Work}
    (hstacked : Stacked registry asked key sight.frames)
    (hhonest : ∀ feature path, allowed (.deliver (.cycleDetected feature path)) →
      IsHonest registry key feature path sight.frames)
    (h : action.Yields (asking allowed) work () fun _ after _ => origin.Kept after) :
    ((action.program work).watched).Follows (discipline registry asked key)
      (fun outcome after => origin.Kept outcome.2 ∧ after = sight) sight := by
  refine Program.Follows.watched (fun request hallowed => ?_) ?_ h
  · refine ⟨hstacked, ?_⟩
    cases request with
    | deliver event =>
      cases event with
      | cycleDetected feature path => exact hhonest feature path hallowed
      | _ => trivial
    | _ => trivial
  · exact fun _ _ _ hafter => ⟨trivial, hafter⟩

/-- What is done once it is known whether the gate is open keeps the discipline. -/
theorem follows_conclude {resolver : Resolver} {feature : String} {context : Context}
    {work : Work} (hstacked : Stacked registry asked key sight.frames)
    (definition : Option Definition) (hkept : origin.Kept work)
    (isOpen : Except FeatureError Bool) :
    (Watched.conclude resolver feature context key definition (isOpen, work)).Follows
      (discipline registry asked key)
      (fun outcome after => origin.Kept outcome.2 ∧ after = sight) sight := by
  cases isOpen with
  | error e => exact ⟨hkept, rfl⟩
  | ok isOpen =>
    cases isOpen with
    | false => exact ⟨hkept, rfl⟩
    | true =>
      exact follows_watched hstacked (fun _ _ h => h.elim)
        (Work.Kept.resolveOpen (fun _ h => h) feature context key definition work () hkept)

/-- A frame that is met again is reported honestly. -/
theorem follows_reportCycle {resolver : Resolver} {work : Work} {feature : String}
    (hstacked : Stacked registry asked key sight.frames)
    (hhonest : IsHonest registry key feature work.guard.frames sight.frames) :
    ((resolver.reportCycle feature key).program work).watched.Follows
      (discipline registry asked key)
      (fun outcome after => work.Kept outcome.2 ∧ after = sight) sight := by
  let allowed (request : Request) : Prop :=
    request.IsPlain ∨ request = .deliver (.cycleDetected feature work.guard.frames)
  have hreport : (resolver.reportCycle feature key).Yields (asking allowed) work ()
      fun _ after _ => work.Kept after := by
    unfold reportCycle
    refine .ask_bind (.inl trivial) fun _ _ _ => .get_bind ?_
    exact Action.Maintains.bind (Work.Kept.emit (.inr rfl)) (fun _ => .pure false) work ()
      (.refl work)
  refine follows_watched hstacked (fun feature path hallowed => ?_) hreport
  rcases hallowed with hplain | heq
  · exact hplain.elim
  · cases heq
    exact hhonest

variable {resolver : Resolver} {context : Context} {again : Calls}

/-- **Asking for requirements** keeps the discipline if the calls do. -/
theorem follows_allOpen {required : List String}
    (hagain : ∀ r ∈ required, ∀ below, origin.Kept below →
      (again r below).Follows (discipline registry asked key)
        (fun outcome after => origin.Kept outcome.2 ∧ after = sight) sight)
    {work : Work} (hkept : origin.Kept work) :
    (Watched.allOpen again required work).Follows (discipline registry asked key)
      (fun outcome after => origin.Kept outcome.2 ∧ after = sight) sight := by
  induction required generalizing work with
  | nil => exact ⟨hkept, rfl⟩
  | cons r rest ih =>
    unfold Watched.allOpen
    refine Program.Follows.bind (hagain r List.mem_cons_self work hkept) ?_
    rintro ⟨result, after⟩ _ ⟨hafter, rfl⟩
    cases result with
    | error e => exact ⟨hafter, rfl⟩
    | ok value =>
      dsimp only
      split
      · exact ih (fun r' hr' => hagain r' (List.mem_cons_of_mem r hr')) hafter
      · exact ⟨hafter, rfl⟩

/-- **Calls below a path** that keep the discipline, and come back with everything as it
was. -/
def Disciplined (resolver : Resolver) (context : Context) (registry : Registry)
    (asked key : String) (path : List String) (again : Calls) : Prop :=
  ∀ feature work sight, Begins resolver context registry asked key path feature work sight →
    (again feature work).Follows (discipline registry asked key)
      (fun outcome after => work.Kept outcome.2 ∧ after = sight) sight

variable {path : List String} {feature : String} {work : Work}

/-- **The gate of a feature** keeps the discipline if the calls from within it do. -/
theorem follows_gateOpen {definition : Definition} {found : List String}
    (h : Begins resolver context registry asked key path feature work sight)
    (hdef : work.registry.get? feature = some definition)
    (hagain : Disciplined resolver context registry asked key (path ++ [feature]) again) :
    (Watched.gateOpen resolver again definition feature key work).Follows
      (discipline registry asked key)
      (fun outcome after => work.Kept outcome.2
        ∧ after = ⟨(feature, found) :: sight.calls, sight.frames⟩)
      ⟨(feature, found) :: sight.calls, sight.frames⟩ := by
  have hstacked := h.toDescent.stacked
  unfold Watched.gateOpen
  refine ⟨⟨hstacked, trivial⟩, ?_⟩
  rintro now _ rfl
  dsimp only [Sight.after]
  split
  · exact ⟨.refl work, rfl⟩
  split
  · exact ⟨.refl work, rfl⟩
  rename_i hrequired
  cases henter : work.guard.enter? (Guard.frame feature key) with
  | none =>
    have hmet : Guard.frame feature key ∈ sight.frames :=
      h.guards ▸ Guard.enter?_eq_none_iff.mp henter
    exact follows_reportCycle hstacked (h.guards ▸ h.toDescent.isHonest hmet)
  | some inside =>
    -- something is required, and above a call for it the frames are those of a path again
    obtain ⟨r, hr⟩ := List.exists_mem_of_ne_nil definition.required (by simpa using hrequired)
    have hinside : Stacked registry asked key inside.frames :=
      (h.enter henter hdef hr (.refl _) found).toDescent.stacked
    refine Program.Follows.mark_bind ⟨hstacked, hinside⟩ ?_
    rintro _ rfl
    refine Program.Follows.bind (follows_allOpen (fun r hr below hkept => ?_) (.refl _)) ?_
    · refine (hagain r below _ (h.enter henter hdef hr hkept found)).mono ?_
      exact fun outcome after hafter => ⟨hkept.trans hafter.1, hafter.2⟩
    rintro ⟨outcome, after⟩ _ ⟨hafter, rfl⟩
    have hleave : after.guard.leave = work.guard := by
      rw [hafter.guard]
      exact Guard.leave_of_enter? henter
    refine Program.Follows.mark_bind ⟨hinside, ?_⟩ ?_
    · rw [hleave, ← h.guards]
      exact hstacked
    · rintro _ rfl
      refine ⟨⟨hafter.registry, hafter.ambient, hleave⟩, ?_⟩
      show Sight.mk _ after.guard.leave.frames = _
      rw [hleave, ← h.guards]
      rfl

/-- **What there is of a call** between its marks keeps the discipline if the calls below
do. -/
theorem follows_body {found : List String}
    (h : Begins resolver context registry asked key path feature work sight)
    (hagain : Disciplined resolver context registry asked key (path ++ [feature]) again) :
    (Watched.body resolver again feature context work).Follows (discipline registry asked key)
      (fun outcome after => work.Kept outcome.2
        ∧ after = ⟨(feature, found) :: sight.calls, sight.frames⟩)
      ⟨(feature, found) :: sight.calls, sight.frames⟩ := by
  unfold Watched.body
  dsimp only
  rw [h.keys]
  cases hdef : work.registry.get? feature with
  | none =>
    refine follows_conclude ?_ none (.refl work) (.ok true)
    exact h.toDescent.stacked
  | some definition =>
    refine Program.Follows.bind (follows_gateOpen h hdef hagain) ?_
    rintro ⟨isOpen, after⟩ _ ⟨hkept, rfl⟩
    refine follows_conclude ?_ (some definition) hkept isOpen
    exact h.toDescent.stacked

/-- **A call** keeps the discipline if the calls below it do. -/
theorem follows_resolveStep
    (hagain : Disciplined resolver context registry asked key (path ++ [feature]) again)
    (h : Begins resolver context registry asked key path feature work sight) :
    (Watched.resolveStep resolver again feature context work).Follows
      (discipline registry asked key)
      (fun outcome after => work.Kept outcome.2 ∧ after = sight) sight := by
  have hstacked := h.toDescent.stacked
  have hlength : sight.calls.length ≤ registry.gatedCount :=
    h.calls ▸ h.toDescent.length_le
  unfold Watched.resolveStep
  refine Program.Follows.mark_bind ⟨hstacked, h.guards.symm, hlength⟩ ?_
  rintro _ rfl
  refine Program.Follows.bind (follows_body h hagain) ?_
  rintro ⟨outcome, after⟩ _ ⟨hkept, rfl⟩
  refine Program.Follows.mark_bind ⟨hstacked, ?_, ?_⟩ ?_
  · rw [hkept.guard]
    exact h.guards.symm
  · rw [hkept.guard]
    rfl
  · rintro _ rfl
    exact ⟨hkept, rfl⟩

/-- **Nested calls keep the discipline**, whatever their floor is, if there is depth enough
left for the path above them. -/
theorem disciplined_resolveNested (floor : String → Context → Action FeatureValue) (depth : Nat)
    (hdepth : registry.gatedCount < depth + path.length) :
    Disciplined resolver context registry asked key path
      (Watched.resolveNested resolver floor context depth) := by
  induction depth generalizing path with
  | zero =>
    -- no call begins so far down
    intro feature work sight h
    have hlength := h.toDescent.length_le
    omega
  | succ depth ih =>
    intro feature work sight
    refine follows_resolveStep (ih ?_)
    rw [List.length_append, List.length_singleton]
    omega

end Follows

/-! ## A whole resolution -/

/-- Nested deep enough above nothing in flight, the calls are those of a resolution. -/
theorem unwatched_resolveNested_empty (resolver : Resolver)
    (floor : String → Context → Action FeatureValue) (spare : Nat) (feature : String)
    (context : Context) (work : Work) :
    (Watched.resolveNested resolver floor context (work.registry.gatedCount + 1 + spare) feature
        { work with guard := .empty }).unwatched
      = (resolver.resolve feature context).program work := by
  let start : Work := { work with guard := .empty }
  have hdeep : (resolver.resolveDeep (fun _ _ => pure .inactive) feature context).Agrees
      (fun _ after => start.Kept after)
      (resolver.resolveNested floor (work.registry.gatedCount + 1 + spare) feature context) start :=
    agrees_resolveDeep _ floor (by show work.registry.gatedCount < _; omega) feature context
  rw [Watched.unwatched_resolveNested, program_resolve_eq_resolveDeep]
  exact hdeep.same.symm

/-- Nested deep enough above nothing in flight, calls keep the discipline. -/
theorem follows_resolveNested_empty (resolver : Resolver)
    (floor : String → Context → Action FeatureValue) (spare : Nat) (feature : String)
    (context : Context) (work : Work) :
    (Watched.resolveNested resolver floor context (work.registry.gatedCount + 1 + spare) feature
        { work with guard := .empty }).Follows
      (discipline work.registry feature (resolver.keyUnder work.ambient context))
      (fun outcome sight => outcome.2.guard = .empty ∧ sight = .none) .none := by
  have hbegins : Begins resolver context work.registry feature
      (resolver.keyUnder work.ambient context) [] feature { work with guard := .empty } .none :=
    ⟨⟨rfl, List.nodup_nil, rfl, .singleton feature, rfl⟩, rfl, rfl, rfl⟩
  refine (disciplined_resolveNested floor _ ?_ feature _ _ hbegins).mono fun outcome sight h => ?_
  · rw [List.length_nil]
    omega
  · exact ⟨h.1.guard, h.2⟩

/-- **Frames in flight are kept in order**, whatever the store, the groups and the closures
reply, and however deep the nesting might go.

* At every moment of a resolution the frames in flight are different ones, for one context
  key, of a path of features that begins with the one asked for, and each of which requires
  the next.
* Every call leaves the frames as it found them, be it with a value or an error.
* A cycle is reported with all frames in flight. The feature it is reported for is among
  them, is required by the last of them, and requires itself in the end. -/
theorem frames_in_flight_in_order (resolver : Resolver)
    (floor : String → Context → Action FeatureValue) (spare : Nat) (feature : String)
    (context : Context) (work : Work) :
    let nested := Watched.resolveNested resolver floor context
      (work.registry.gatedCount + 1 + spare) feature { work with guard := .empty }
    nested.unwatched = (resolver.resolve feature context).program work
      ∧ nested.Follows
          (discipline work.registry feature (resolver.keyUnder work.ambient context))
          (fun outcome sight => outcome.2.guard = .empty ∧ sight = .none) .none :=
  ⟨resolver.unwatched_resolveNested_empty floor spare feature context work,
    resolver.follows_resolveNested_empty floor spare feature context work⟩

end FeatureGate.Resolver
