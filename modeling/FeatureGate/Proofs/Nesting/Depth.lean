import Mathlib.Data.Finset.Card
import FeatureGate.Proofs.Gating.Resolution
import FeatureGate.Proofs.Nesting.Gate
import FeatureGate.Proofs.Nesting.Kept
import FeatureGate.Proofs.Watching

/-!
# How deep a resolution goes

The recursion through requirements is closed by nesting it a given number of times
above a floor. That this is no more than a way of writing it down is the subject here:
from a unit of work on, it comes to the same however often the recursion is nested and
whatever its floor is, as long as it is nested more often than there are features left
to be entered (`Action.Agrees.resolveNested`).

Features left to be entered are those that require others and have no frame in flight
(`Work.vacant`). A nested call has one of them less, because a feature is entered before
what it requires is asked for; and there is none less for the next requirement, because
a call leaves the frames as it found them. So the two facts have to be shown together:
`Action.Agrees` says that actions come to the same, and what holds when they end.

It follows that the recursion without any floor has one solution and no other, which is
what is nested as often as there are features that require others, and once more
(`Resolver.resolveStep_eq_iff`).
-/

namespace FeatureGate

/-- One feature requires another. -/
def Registry.Requires (registry : Registry) (feature required : String) : Prop :=
  ∃ definition, registry.get? feature = some definition ∧ required ∈ definition.required

namespace Resolver

/-! ## Features left to be entered -/

namespace Work

variable {work below : Work} {key feature : String}

/-- **The features left to be entered** for a context key: those that require others,
and have no frame in flight. -/
def vacant (work : Work) (key : String) : Finset String :=
  work.registry.gated.toFinset.filter (Guard.frame · key ∉ work.guard.frames)

theorem card_vacant_le (work : Work) (key : String) :
    (work.vacant key).card ≤ work.registry.gatedCount := by
  rw [← Registry.length_gated]
  exact (Finset.card_filter_le _ _).trans (List.toFinset_card_le _)

theorem Kept.vacant (h : work.Kept below) : below.vacant key = work.vacant key := by
  unfold Work.vacant
  rw [h.registry, h.guard]

/-- **Entering a feature** leaves one less. -/
theorem card_vacant_lt_of_enter {inside : Guard} {definition : Definition}
    (hdef : work.registry.get? feature = some definition) (hrequired : definition.required ≠ [])
    (henter : work.guard.enter? (Guard.frame feature key) = some inside) :
    (Work.vacant { work with guard := inside } key).card < (work.vacant key).card := by
  refine Finset.card_lt_card (Finset.ssubset_iff_of_subset ?_ |>.mpr ⟨feature, ?_, ?_⟩)
  · refine Finset.monotone_filter_right _ fun g _ hg hmem => hg ?_
    rw [Guard.frames_of_enter? henter]
    exact List.mem_append_left _ hmem
  · exact Finset.mem_filter.mpr ⟨List.mem_toFinset.mpr (Registry.mem_gated hdef hrequired),
      Guard.notMem_of_enter? henter⟩
  · intro hmem
    refine (Finset.mem_filter.mp hmem).2 ?_
    rw [Guard.frames_of_enter? henter]
    exact List.mem_append_right _ (List.mem_singleton_self _)

end Work

/-! ## Actions that come to the same -/

/-- **Actions that agree** from a unit of work on: they come to the same, whatever
they are told, and something is expected of what that is. -/
structure Action.Agrees {α : Type} (expected : Except FeatureError α → Work → Prop)
    (first second : Action α) (work : Work) : Prop where
  /-- They come to the same. -/
  same : first.program work = second.program work
  /-- They end as expected. -/
  yields : first.Yields (asking fun _ => True) work () fun result after _ =>
    expected result after

namespace Action.Agrees

variable {α β : Type} {work : Work} {expected : Except FeatureError α → Work → Prop}

theorem refl {action : Action α} (h : action.Yields (asking fun _ => True) work ()
    fun result after _ => expected result after) : action.Agrees expected action work :=
  ⟨rfl, h⟩

/-- Whatever holds of the unit of work an action maintains is expected of it. -/
theorem of_maintains {action : Action α} {holds : Work → Prop}
    (h : action.Maintains (asking fun _ => True) fun work _ => holds work) (hwork : holds work) :
    action.Agrees (fun _ after => holds after) action work :=
  .refl (h work () hwork)

/-- **One action after another**: they agree if what comes second does, from wherever
the first ones end. -/
theorem bind {first first' : Action β} {next next' : β → Action α}
    {middle : Except FeatureError β → Work → Prop} (h : first.Agrees middle first' work)
    (hok : ∀ b after, middle (.ok b) after → (next b).Agrees expected (next' b) after)
    (herror : ∀ e after, middle (.error e) after → expected (.error e) after) :
    (first >>= next).Agrees expected (first' >>= next') work := by
  refine ⟨?_, h.yields.bind (fun b after _ hmiddle => (hok b after hmiddle).yields)
    fun e after _ => herror e after⟩
  rw [program_bind, program_bind, ← h.same]
  refine Program.Follows.bind_congr (fun _ _ _ => ⟨(), trivial⟩) h.yields ?_
  rintro ⟨result, after⟩ ⟨⟩ hmiddle
  cases result with
  | ok b => exact (hok b after hmiddle).same
  | error e => rfl

theorem get_bind {next next' : Work → Action α}
    (h : (next work).Agrees expected (next' work) work) :
    (get >>= next).Agrees expected (get >>= next') work := ⟨h.same, h.yields⟩

theorem contextKey_bind {resolver : Resolver} {context : Context}
    {next next' : String → Action α}
    (h : (next (resolver.keyUnder work.ambient context)).Agrees expected
      (next' (resolver.keyUnder work.ambient context)) work) :
    (resolver.contextKey context >>= next).Agrees expected (resolver.contextKey context >>= next')
      work := ⟨h.same, h.yields⟩

theorem ite {c : Prop} [Decidable c] {first first' second second' : Action α}
    (hfirst : c → first.Agrees expected first' work)
    (hsecond : ¬ c → second.Agrees expected second' work) :
    (if c then first else second).Agrees expected (if c then first' else second') work := by
  split
  · exact hfirst ‹_›
  · exact hsecond ‹_›

theorem mono {first second : Action α} {expected' : Except FeatureError α → Work → Prop}
    (h : first.Agrees expected second work)
    (hexpected : ∀ result after, expected result after → expected' result after) :
    first.Agrees expected' second work :=
  ⟨h.same, h.yields.mono fun result after _ => hexpected result after⟩

/-- **One action after another that is attempted**: its failure ends nothing. -/
theorem attempt_bind {first second : Action β} {next next' : Except FeatureError β → Action α}
    {middle : Except FeatureError β → Work → Prop} (h : first.Agrees middle second work)
    (hnext : ∀ outcome after, middle outcome after →
      (next outcome).Agrees expected (next' outcome) after) :
    (attempt first >>= next).Agrees expected (attempt second >>= next') work := by
  have hattempt : (attempt first).Agrees
      (fun result after => ∃ outcome, result = .ok outcome ∧ middle outcome after)
      (attempt second) work := by
    refine ⟨?_, .attempt (h.yields.mono fun result _ _ hmiddle => ⟨result, rfl, hmiddle⟩)⟩
    rw [program_attempt, program_attempt, h.same]
  refine .bind hattempt ?_ ?_
  · rintro outcome after ⟨_, hout, hmiddle⟩
    cases hout
    exact hnext outcome after hmiddle
  · rintro e after ⟨_, hout, -⟩
    cases hout

/-- **A frame is put in flight**, or it is there already. -/
theorem enter_bind {frame : String} {next next' : Bool → Action α}
    (hsome : ∀ inside, work.guard.enter? frame = some inside →
      (next true).Agrees expected (next' true) { work with guard := inside })
    (hnone : work.guard.enter? frame = none → (next false).Agrees expected (next' false) work) :
    (enter frame >>= next).Agrees expected (enter frame >>= next') work := by
  refine ⟨?_, ?_⟩
  · rw [program_enter_bind, program_enter_bind]
    cases henter : work.guard.enter? frame with
    | some inside => exact (hsome inside henter).same
    | none => exact (hnone henter).same
  · unfold Yields
    rw [program_enter_bind]
    cases henter : work.guard.enter? frame with
    | some inside => exact (hsome inside henter).yields
    | none => exact (hnone henter).yields

/-! ## Calls that agree -/

variable {resolver : Resolver} {context : Context} {feature : String}
  {again again' : String → Context → Action FeatureValue}

/-- **Asking for requirements** with calls that agree, and keep the unit of work. -/
theorem allOpen {origin : Work} {required : List String}
    (hagain : ∀ r ∈ required, ∀ below, origin.Kept below →
      (again r context).Agrees (fun _ after => origin.Kept after) (again' r context) below)
    (hwork : origin.Kept work) :
    (Resolver.allOpen again context required).Agrees (fun _ after => origin.Kept after)
      (Resolver.allOpen again' context required) work := by
  induction required generalizing work with
  | nil => exact .of_maintains (.pure true) hwork
  | cons r rest ih =>
    unfold Resolver.allOpen
    refine .bind (hagain r List.mem_cons_self work hwork) (fun value after hafter => ?_)
      fun _ _ hafter => hafter
    exact .ite (fun _ => ih (fun r' hr' => hagain r' (List.mem_cons_of_mem r hr')) hafter)
      fun _ => .of_maintains (.pure false) hafter

/-- **The gate of a feature** with calls that agree from within it. -/
theorem gateOpen {definition : Definition} {key : String}
    (hagain : ∀ inside, definition.required ≠ [] →
      work.guard.enter? (Guard.frame feature key) = some inside →
      ∀ r ∈ definition.required, ∀ below, Work.Kept { work with guard := inside } below →
        (again r context).Agrees (fun _ after => Work.Kept { work with guard := inside } after)
          (again' r context) below) :
    (resolver.gateOpen again definition feature context key).Agrees
      (fun _ after => work.Kept after)
      (resolver.gateOpen again' definition feature context key) work := by
  have hclock : (ask .clock).Agrees (fun _ after => work = after) (ask .clock) work :=
    .refl (.ask trivial fun _ _ _ => rfl)
  have hclosed : ∀ met, (pure met : Action Bool).Agrees (fun _ after => work.Kept after)
      (pure met) work :=
    fun met => .refl (.pure (.refl work))
  unfold Resolver.gateOpen
  refine .bind hclock ?_ fun _ _ hafter => hafter ▸ .refl work
  rintro now _ rfl
  refine .ite (fun _ => hclosed false) fun _ => .ite (fun _ => hclosed true) fun hrequired => ?_
  refine .enter_bind (fun inside henter => ?_) fun _ => ?_
  · -- within the frame the requirements are asked for, and then it is taken off
    have hall : (Resolver.allOpen again context definition.required).Agrees
        (fun _ after => Work.Kept { work with guard := inside } after)
        (Resolver.allOpen again' context definition.required) { work with guard := inside } :=
      .allOpen (hagain inside (by simpa using hrequired) henter) (.refl _)
    refine .attempt_bind hall fun outcome after hkept => ?_
    refine .refl (.modify_bind (.ofExcept ⟨hkept.registry, hkept.ambient, ?_⟩))
    rw [← Guard.leave_of_enter? henter, hkept.guard]
  · exact .refl ((resolver.yields_reportCycle feature key work).mono
      fun _ _ _ hmet => hmet.2 ▸ .refl work)

/-- **One step of resolution** with calls that agree from within the feature. -/
theorem resolveStep
    (hagain : ∀ inside definition, work.registry.get? feature = some definition →
      definition.required ≠ [] →
      work.guard.enter? (Guard.frame feature (resolver.keyUnder work.ambient context))
        = some inside →
      ∀ r below, Work.Kept { work with guard := inside } below →
        (again r context).Agrees (fun _ after => Work.Kept { work with guard := inside } after)
          (again' r context) below) :
    (resolver.resolveStep again feature context).Agrees (fun _ after => work.Kept after)
      (resolver.resolveStep again' feature context) work := by
  have hopen : ∀ definition after, work.Kept after → ∀ isOpen : Bool,
      (if isOpen then resolver.resolveOpen feature context
          (resolver.keyUnder work.ambient context) definition
        else pure .inactive : Action FeatureValue).Agrees (fun _ after => work.Kept after)
        (if isOpen then resolver.resolveOpen feature context
            (resolver.keyUnder work.ambient context) definition
          else pure .inactive) after :=
    fun definition after hafter isOpen => .of_maintains
      (.ite (Work.Kept.resolveOpen (fun _ _ => trivial) _ _ _ _) (.pure _)) hafter
  unfold Resolver.resolveStep
  refine .contextKey_bind (.get_bind ?_)
  dsimp only
  cases hdef : work.registry.get? feature with
  | none => exact hopen none work (.refl work) true
  | some definition =>
    refine .bind (.gateOpen fun inside hrequired henter r _ =>
      hagain inside definition hdef hrequired henter r) ?_ fun _ _ hafter => hafter
    exact fun isOpen after hafter => hopen (some definition) after hafter isOpen

/-- **Nested calls agree**, whatever their depth and their floor are, if the depth
exceeds the number of features left to be entered. -/
theorem resolveNested (floor floor' : String → Context → Action FeatureValue)
    {depth depth' : Nat}
    (h : (work.vacant (resolver.keyUnder work.ambient context)).card < depth)
    (h' : (work.vacant (resolver.keyUnder work.ambient context)).card < depth') :
    (resolver.resolveNested floor depth feature context).Agrees (fun _ after => work.Kept after)
      (resolver.resolveNested floor' depth' feature context) work := by
  induction depth generalizing depth' feature work with
  | zero => exact absurd h (Nat.not_lt_zero _)
  | succ depth ih =>
    cases depth' with
    | zero => exact absurd h' (Nat.not_lt_zero _)
    | succ depth' =>
      refine .resolveStep fun inside definition hdef hrequired henter r below hkept => ?_
      -- the feature is entered above what it requires, so there is one less left
      have hless := Work.card_vacant_lt_of_enter hdef hrequired henter
      have hkey : resolver.keyUnder below.ambient context
          = resolver.keyUnder work.ambient context :=
        congrArg (resolver.keyUnder · context) hkept.ambient
      have hcard : (below.vacant (resolver.keyUnder below.ambient context)).card
          < (work.vacant (resolver.keyUnder work.ambient context)).card := by
        rw [hkey, hkept.vacant]
        exact hless
      exact (ih (by omega) (by omega)).mono fun _ _ hafter => hkept.trans hafter

end Action.Agrees

/-! ## The recursion without a floor -/

/-- **Resolve a feature, nested deep enough**: once more than there are features that
require others. -/
def resolveDeep (resolver : Resolver) (floor : String → Context → Action FeatureValue)
    (feature : String) (context : Context) : Action FeatureValue := do
  resolver.resolveNested floor ((← get).registry.gatedCount + 1) feature context

theorem program_resolveDeep (resolver : Resolver)
    (floor : String → Context → Action FeatureValue) (feature : String) (context : Context)
    (work : Work) :
    (resolver.resolveDeep floor feature context).program work
      = (resolver.resolveNested floor (work.registry.gatedCount + 1) feature context).program
          work :=
  Action.program_get_bind _ _

/-- A resolution is nested deep enough, with nothing in flight. -/
theorem program_resolve_eq_resolveDeep (resolver : Resolver) (feature : String)
    (context : Context) (work : Work) :
    (resolver.resolve feature context).program work
      = (resolver.resolveDeep (fun _ _ => pure .inactive) feature context).program
          { work with guard := .empty } := by
  unfold resolve
  rw [Action.program_modify_bind, Action.program_get_bind, program_resolveDeep]

variable {resolver : Resolver} {floor : String → Context → Action FeatureValue}

/-- **To nest deeper changes nothing**, nor does another floor. -/
theorem agrees_resolveDeep (floor floor' : String → Context → Action FeatureValue)
    {depth : Nat} {work : Work} (h : work.registry.gatedCount < depth) (feature : String)
    (context : Context) :
    (resolver.resolveDeep floor feature context).Agrees (fun _ after => work.Kept after)
      (resolver.resolveNested floor' depth feature context) work := by
  have hcard := work.card_vacant_le (resolver.keyUnder work.ambient context)
  have hagrees : (resolver.resolveNested floor (work.registry.gatedCount + 1) feature
      context).Agrees (fun _ after => work.Kept after)
      (resolver.resolveNested floor' depth feature context) work :=
    .resolveNested floor floor' (by omega) (by omega)
  refine ⟨(resolver.program_resolveDeep ..).trans hagrees.same, ?_⟩
  unfold Action.Yields
  rw [program_resolveDeep]
  exact hagrees.yields

/-- Nesting deep enough solves the recursion. -/
theorem resolveStep_resolveDeep (resolver : Resolver)
    (floor : String → Context → Action FeatureValue) :
    resolver.resolveStep (resolver.resolveDeep floor) = resolver.resolveDeep floor := by
  funext feature context work
  have hstep : (resolver.resolveStep (resolver.resolveDeep floor) feature context).Agrees
      (fun _ after => work.Kept after)
      (resolver.resolveStep (resolver.resolveNested floor (work.registry.gatedCount + 1))
        feature context) work := by
    refine .resolveStep fun inside definition _ _ _ r below hkept => ?_
    have hregistry : below.registry = work.registry := hkept.registry
    refine (agrees_resolveDeep floor floor ?_ r context).mono fun _ _ hafter => hkept.trans hafter
    rw [hregistry]
    exact Nat.lt_succ_self _
  have hdeep : (resolver.resolveDeep floor feature context).Agrees (fun _ after => work.Kept after)
      (resolver.resolveNested floor (work.registry.gatedCount + 2) feature context) work :=
    agrees_resolveDeep floor floor (by omega) feature context
  exact hstep.same.trans hdeep.same.symm

/-- **The recursion has one solution.** Whatever resolves each feature in one step, given
itself for the features required, comes to what is nested deep enough. -/
theorem resolveStep_eq_iff {again : String → Context → Action FeatureValue} :
    resolver.resolveStep again = again ↔ again = resolver.resolveDeep floor := by
  constructor
  · intro hstep
    -- a solution is a floor on which nesting makes no difference
    have hnested : ∀ depth, resolver.resolveNested again depth = again := by
      intro depth
      induction depth with
      | zero => rfl
      | succ depth ih => exact (congrArg resolver.resolveStep ih).trans hstep
    funext feature context work
    have hdeep : (resolver.resolveDeep floor feature context).Agrees
        (fun _ after => work.Kept after)
        (resolver.resolveNested again (work.registry.gatedCount + 1) feature context) work :=
      agrees_resolveDeep floor again (Nat.lt_succ_self _) feature context
    rw [hnested] at hdeep
    exact hdeep.same.symm
  · rintro rfl
    exact resolver.resolveStep_resolveDeep floor

end Resolver

end FeatureGate
