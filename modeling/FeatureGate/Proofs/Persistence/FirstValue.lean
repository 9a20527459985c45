import Mathlib.Data.List.Basic
import FeatureGate.Proofs.Persistence.Steady

/-!
# First values are kept

Resolvers that share a store and the definitions take turns, each with a cache of its
own. As long as none of them writes or removes the value of a feature for a context
key, it is evaluated once at most, by the first of them that needs it; all others are
told the same from then on, even if the definition is replaced by one that would come
out differently.
-/

namespace FeatureGate

namespace Resolver

/-! ## The checks of a resolution -/

/-- **Whether a feature may be active at all**: the checks of a resolution, which come
before any value is looked for. -/
def checks (resolver : Resolver) (feature : String) (context : Context) : Action Bool := do
  modify fun work => { work with guard := .empty }
  let work ← get
  match work.registry.get? feature with
  | none => return true
  | some definition =>
    resolver.gateOpen
      (resolver.resolveNested (fun _ _ => return .inactive) work.registry.gatedCount) definition
      feature context (resolver.keyUnder work.ambient context)

/-- **A resolution is its checks**, and if they are passed, the rest. -/
theorem program_resolve (resolver : Resolver) (feature : String) (context : Context)
    (work : Work) :
    (resolver.resolve feature context).program work
      = (resolver.checks feature context >>= fun isOpen =>
          if isOpen then resolver.resolveOpen feature context
            (resolver.keyUnder work.ambient context) (work.registry.get? feature)
          else pure .inactive).program work := by
  rw [Action.program_bind]
  unfold Resolver.resolve checks
  rw [Action.program_modify_bind, Action.program_get_bind, Action.program_modify_bind,
    Action.program_get_bind]
  dsimp only [resolveNested, resolveStep]
  rw [Action.program_contextKey_bind, Action.program_get_bind]
  dsimp only
  cases work.registry.get? feature with
  | none => rfl
  | some definition => rw [← Action.program_bind]

/-! ## Tasks -/

namespace Steady

open Resolver.Action (Maintains Yields)

variable {resolver : Resolver} {origin known : Record} {feature key : String} {work : Work}

theorem checks (hgroups : resolver.consultsGroups = false) (f : String) (context : Context) :
    (resolver.checks f context).Maintains Record.protocol (Steady origin feature key) := by
  have hopens := opens hgroups origin feature key context
  unfold Resolver.checks
  refine .bind (.modify fun _ _ h => { h with }) fun _ => .get_bind fun work _ _ => ?_
  split
  · exact .pure _
  · exact .gateOpen hopens.tolerant (fun r _ =>
      hopens.resolveNested (fun _ => .pure _) _ trivial) _ _

/-- **What a task does to a row**: it leaves it steady, unless it writes or removes values
and the row is not the same after it. -/
theorem task (hgroups : resolver.consultsGroups = false)
    (h : Steady origin feature key work known) (task : Task) :
    (task.action resolver).Yields Record.protocol work known fun _ after next =>
      (task.IsWrite → next.rows.get? feature key = known.rows.get? feature key) →
        Steady origin feature key after next := by
  have hwrites : ∀ {α : Type} {action : Action α}, task.IsWrite →
      (action.Yields Record.protocol work known fun _ after next =>
        IfSame (known.rows.get? feature key) origin feature key after next) →
      action.Yields Record.protocol work known fun _ after next =>
        (task.IsWrite → next.rows.get? feature key = known.rows.get? feature key) →
          Steady origin feature key after next :=
    fun hwrite haction => haction.mono fun _ _ _ h hsame => h (hsame hwrite)
  by_cases hwrite : task.IsWrite
  · cases task with
    | operation op =>
      cases op with
      | set | activate | deactivate | activateForGroup => exact hwrites hwrite (h.set _ _ _ rfl)
      | setForAllContexts => exact hwrites hwrite (h.setForAllContexts _ _ rfl)
      | delete => exact hwrites hwrite (h.delete _ _ rfl)
      | purge => exact hwrites hwrite (h.purge _ rfl)
      | purgeExpired => exact hwrites hwrite (h.purgeExpired rfl)
      | _ => exact hwrite.elim
    | _ => exact hwrite.elim
  · exact ((reading hgroups origin feature key).task hwrite work known h).mono
      fun _ _ _ hsteady _ => hsteady

end Steady

end Resolver

/-! ## Crews -/

open Resolver (Task)

namespace Crew

variable {σ : Type} {around : Surroundings σ} {origin : Record} {feature key : String}
  {crew : Crew (σ × List (Exchange Resolver.interface))} {member : Member}

/-- **A crew for which a row is steady**: nobody consults groups, and whatever anybody
has cached for the row is its value. -/
structure Steady (around : Surroundings σ) (origin : Record) (feature key : String)
    (crew : Crew (σ × List (Exchange Resolver.interface))) : Prop where
  /-- The row is steady. -/
  record : origin.Steady feature key crew.registry (around.record crew.state)
  /-- Nobody consults groups. -/
  consultsGroups {member : Member} : member ∈ crew.members →
    member.resolver.consultsGroups = false
  /-- What is cached for the row is its value. -/
  cached {member : Member} {value : FeatureValue} : member ∈ crew.members →
    member.work.cache.get? feature key = some value →
    (around.record crew.state).Holds feature key value

/-- **Turns that spare a row**: a task that writes or removes values leaves it as it
is. -/
def Spares (around : Surroundings σ) (feature key : String) : List Turn →
    Crew (σ × List (Exchange Resolver.interface)) → Prop
  | [], _ => True
  | turn :: rest, crew =>
    let later := (crew.take around.recording turn).2
    (turn.task.IsWrite → (around.record later.state).rows.get? feature key
      = (around.record crew.state).rows.get? feature key) ∧ Spares around feature key rest later

theorem spares_append {first rest : List Turn} :
    crew.Spares around feature key (first ++ rest) ↔ crew.Spares around feature key first
      ∧ (crew.after around.recording first).Spares around feature key rest := by
  induction first generalizing crew with
  | nil => exact ⟨fun h => ⟨trivial, h⟩, And.right⟩
  | cons turn first ih => exact (and_congr_right fun _ => ih).trans and_assoc.symm

namespace Steady

theorem start {registry : Registry} {members : List (Resolver × Option Scope)}
    (hgroups : ∀ member ∈ members, member.1.consultsGroups = false)
    (hdefined : (registry.get? feature).isSome) (s : σ) :
    (Crew.start registry members (s, [])).Steady around (around.record (s, [])) feature key where
  record := ⟨hdefined, .refl .., .nil⟩
  consultsGroups hmember := by
    obtain ⟨member, hmem, rfl⟩ := List.mem_map.mp hmember
    exact hgroups member hmem
  cached hmember hvalue := by
    obtain ⟨member, hmem, rfl⟩ := List.mem_map.mp hmember
    exact absurd hvalue (by simp [Resolver.Work.start])

/-- For each of the crew, the row is steady. -/
theorem work (h : crew.Steady around origin feature key) (hmember : member ∈ crew.members) :
    Resolver.Steady origin feature key { member.work with registry := crew.registry }
      (around.record crew.state) :=
  { h.record with cached := h.cached hmember }

/-- From now on, the row is steady. -/
theorem now (h : crew.Steady around origin feature key) :
    crew.Steady around (around.record crew.state) feature key :=
  { h with record := { h.record with continues := .refl .. } }

/-- **A turn** leaves a row steady if it spares it. -/
theorem take (h : crew.Steady around origin feature key) {turn : Turn}
    (hspares : turn.task.IsWrite →
      (around.record (crew.take around.recording turn).2.state).rows.get? feature key
        = (around.record crew.state).rows.get? feature key) :
    (crew.take around.recording turn).2.Steady around origin feature key := by
  cases hat : crew.members[turn.member]? with
  | none => rwa [take_of_none hat]
  | some member =>
    have hmember := List.mem_of_getElem? hat
    have hgroups := h.consultsGroups hmember
    have hafter := run_of_yields around.admits_recording
      ((h.now.work hmember).task hgroups turn.task)
    rw [take_of_member hat] at hspares ⊢
    have hsteady := hafter hspares
    refine ⟨⟨hsteady.defined, h.record.continues.trans hsteady.continues, hsteady.orderly⟩, ?_, ?_⟩
    · intro other hother
      rcases List.mem_or_eq_of_mem_set hother with hother | rfl
      · exact h.consultsGroups hother
      · exact hgroups
    · -- the others keep what they have, since the row that they have it from persists
      intro other value hother hvalue
      rcases List.mem_or_eq_of_mem_set hother with hother | rfl
      · exact hsteady.continues.holds (h.cached hother hvalue)
      · exact hsteady.cached hvalue

/-- **A sequence of turns** leaves a row steady if each of them spares it. -/
theorem after {turns : List Turn} (h : crew.Steady around origin feature key)
    (hspares : crew.Spares around feature key turns) :
    (crew.after around.recording turns).Steady around origin feature key := by
  induction turns generalizing crew with
  | nil => exact h
  | cons turn rest ih => exact ih (h.take hspares.1) hspares.2

/-- **Whoever passes the checks** is told the value of the row, the one that it had before
if it had one. -/
theorem resolve (h : crew.Steady around origin feature key) (hmember : member ∈ crew.members)
    {context : Context} (hkey : member.resolver.keyUnder member.work.ambient context = key)
    (hchecks : (crew.run around.recording member
      (member.resolver.checks feature context)).1.1 = .ok true) :
    let ran := crew.run around.recording member (member.resolver.resolve feature context)
    ∃ payload, (around.record ran.2).rows.get? feature key = some payload
      ∧ (∀ earlier, origin.rows.get? feature key = some earlier → payload = earlier)
      ∧ ran.1.1 = .ok (.ofPayload payload) := by
  have hgroups := h.consultsGroups hmember
  have hrun : crew.run around.recording member (member.resolver.resolve feature context)
      = crew.run around.recording member (member.resolver.checks feature context >>= fun isOpen =>
          if isOpen then member.resolver.resolveOpen feature context key
            (crew.registry.get? feature)
          else pure .inactive) := by
    subst hkey
    exact run_congr (Resolver.program_resolve ..)
  rw [hrun, run_bind]
  -- the checks resolve what is required, and leave the row steady for what comes after them
  have hpassed := run_of_yields around.admits_recording
    (Resolver.Steady.checks hgroups feature context _ _ (h.work hmember))
  generalize crew.run around.recording member (member.resolver.checks feature context) = ran
    at hchecks hpassed ⊢
  obtain ⟨⟨result, after⟩, t⟩ := ran
  obtain rfl : result = .ok true := hchecks
  have hopen : (member.resolver.resolveOpen feature context key
      (crew.registry.get? feature)).Yields Record.protocol after (around.record t) _ :=
    hpassed.resolveOpen hgroups fun _ => h.record.defined
  obtain ⟨hsteady, _, hresult, hholds⟩ := hopen.run around.admits_recording
  obtain ⟨payload, hrow, rfl⟩ := hholds rfl rfl
  exact ⟨payload, hrow, fun earlier hearlier =>
    Option.some.inj (hrow.symm.trans (hsteady.continues.persists hearlier)), hresult⟩

end Steady

/-- **The variant** is the text that the feature comes out as. -/
theorem run_resolveVariant {answer : (request : Request) → StateM σ request.Reply}
    {crew : Crew σ} {member : Member} {context : Context} {text : String}
    (hvariant : ((crew.registry.get? feature).bind Definition.table?).isSome)
    (hresolve : (crew.run answer member (member.resolver.resolve feature context)).1.1
      = .ok (.ofPayload (.string text))) :
    (crew.run answer member (member.resolver.resolveVariant feature context)).1.1 = .ok text := by
  have hrun : crew.run answer member (member.resolver.resolveVariant feature context)
      = crew.run answer member (member.resolver.resolve feature context >>= fun value =>
          value.text?.elim (throw (.variantUnavailable feature)) pure) := by
    refine run_congr ?_
    unfold Resolver.resolveVariant
    rw [Resolver.Action.program_get_bind]
    have htable : ¬ ((crew.registry.get? feature).bind Definition.table?).isNone := by
      simpa [Option.isSome_iff_ne_none] using hvariant
    refine congrArg (Resolver.Action.program · _)
      ((if_neg htable).trans (bind_congr fun value => ?_))
    cases value.text? <;> rfl
  rw [hrun, run_bind]
  generalize crew.run answer member (member.resolver.resolve feature context) = ran at hresolve ⊢
  obtain ⟨⟨result, after⟩, t⟩ := ran
  obtain rfl : result = .ok (.ofPayload (.string text)) := hresolve
  rfl

end Crew

/-- **A first value is kept.** Resolvers that consult no groups start with nothing cached,
share the definitions and a store in memory, and take turns at tasks of any kind;
whatever the clock and the closures answer. If a feature is defined, and no task that
writes or removes values changes its row for a context key, then

* it is evaluated for the key once at most, and never if there was a row, where an
  evaluation is told by the first write that follows it;
* the row, once there is one, stays the same;
* whoever resolves the feature for the key and passes the checks is told the value of the
  row, and its text if the feature is a variant feature, whatever its table says by then. -/
theorem Crew.first_value_kept {σ : Type} (around : Surroundings σ) (registry : Registry)
    (members : List (Resolver × Option Scope)) (s : σ) (turns : List Crew.Turn)
    (feature key : String) (hgroups : ∀ member ∈ members, member.1.consultsGroups = false)
    (hdefined : (registry.get? feature).isSome)
    (hspares : (Crew.start registry members (s, [])).Spares around feature key turns) :
    let answer := around.recording
    let crew := Crew.start registry members (s, [])
    let later := crew.after answer turns
    let row s := (around.record s).rows.get? feature key
    (Record.evaluations feature key later.state.2 ≤ if (row crew.state).isSome then 0 else 1)
      ∧ Orderly later.state.2
      ∧ (∀ first rest payload, turns = first ++ rest →
          row (crew.after answer first).state = some payload → row later.state = some payload)
      ∧ ∀ member ∈ later.members, ∀ context,
          member.resolver.keyUnder member.work.ambient context = key →
          (later.run answer member (member.resolver.checks feature context)).1.1 = .ok true →
          ∃ payload,
            row (later.run answer member (member.resolver.resolve feature context)).2 = some payload
            ∧ (∀ earlier, row later.state = some earlier → payload = earlier)
            ∧ (later.run answer member (member.resolver.resolve feature context)).1.1
              = .ok (.ofPayload payload)
            ∧ ∀ text, payload = .string text →
                ((later.registry.get? feature).bind Definition.table?).isSome →
                (later.run answer member (member.resolver.resolveVariant feature context)).1.1
                  = .ok text := by
  intro answer crew later row
  have hstart : crew.Steady around (around.record (s, [])) feature key :=
    .start hgroups hdefined s
  have hsteady := hstart.after hspares
  refine ⟨?_, hsteady.record.orderly, ?_, ?_⟩
  · have htally := hsteady.record.continues.tally
    have hnone : Record.evaluations feature key (around.record (s, [])).history = 0 := rfl
    rw [hnone, Nat.zero_add] at htally
    exact Nat.le_trans (Nat.le_add_right ..) htally
  · rintro first rest payload rfl hrow
    obtain ⟨hfirst, hrest⟩ := Crew.spares_append.mp hspares
    have hlater := ((hstart.after hfirst).now.after hrest).record.continues.persists hrow
    rwa [← Crew.after_append] at hlater
  · intro member hmember context hkey hchecks
    obtain ⟨payload, hrow, hearlier, hresult⟩ := hsteady.now.resolve hmember hkey hchecks
    refine ⟨payload, hrow, hearlier, hresult, ?_⟩
    rintro text rfl hvariant
    exact Crew.run_resolveVariant hvariant hresult

/-- A closure that comes out differently each time is asked for the plan of a user. Then
another resolver replaces it by a table that lists one other plan only, loads the value
and purges a feature that is no longer used. Both resolvers stick to the first plan. -/
theorem Crew.first_value_kept_redefined :
    let registry : Registry := ⟨(∅ : Std.ExtTreeMap String Definition).insert "plan"
      (.ofRule "plan" (.closure ⟨0⟩))⟩
    let resolver : Resolver := ⟨.none, .standard, false, false, none⟩
    let world : World Store.Rows := .start .epoch ∅ ⟨[(.counter "plan ", 0)]⟩
    let around := Surroundings.world .none
    let ada := Context.scalar "ada"
    let key := resolver.keyUnder none ada
    let forks := Crew.start registry [(resolver, none), (resolver, none)] (world, [])
    let turns : List Crew.Turn := [⟨0, .operation (.resolve "plan" ada)⟩,
      ⟨1, .operation (.defineVariant "plan" [("basic", 100)])⟩,
      ⟨0, .operation .flushCache⟩, ⟨1, .operation (.load ["plan"] [ada])⟩,
      ⟨1, .operation (.purge (some ["old"]))⟩]
    let later := forks.after around.recording turns
    Record.evaluations "plan" key later.state.2 ≤ 1
      ∧ Orderly later.state.2
      ∧ ∀ member ∈ later.members,
          (later.run around.recording member (member.resolver.resolve "plan" ada)).1.1
              = .ok (.active (.string "plan 0"))
            ∧ (later.run around.recording member (member.resolver.resolveVariant "plan" ada)).1.1
              = .ok "plan 0" := by
  intro registry resolver world around ada key forks turns later
  have hspares : forks.Spares around "plan" key turns :=
    ⟨False.elim, False.elim, False.elim, False.elim, fun _ => by decide +kernel, trivial⟩
  have hkey : ∀ member ∈ later.members,
      member.resolver.keyUnder member.work.ambient ada = key := by decide +kernel
  have hchecks : ∀ member ∈ later.members, (later.run around.recording member
      (member.resolver.checks "plan" ada)).1.1 = .ok true := by decide +kernel
  have hrow : (around.record later.state).rows.get? "plan" key = some (.string "plan 0") := by
    decide +kernel
  have hvariant : ((later.registry.get? "plan").bind Definition.table?).isSome := by
    decide +kernel
  subst later forks
  obtain ⟨hevaluations, horderly, -, hresolve⟩ := Crew.first_value_kept around registry
    [(resolver, none), (resolver, none)] world turns "plan" key (by decide) (by decide +kernel)
    hspares
  refine ⟨Nat.le_trans hevaluations (by split <;> decide), horderly, fun member hmember => ?_⟩
  obtain ⟨payload, -, hearlier, hvalue, htext⟩ :=
    hresolve member hmember ada (hkey member hmember) (hchecks member hmember)
  obtain rfl := hearlier _ hrow
  exact ⟨hvalue, htext _ rfl hvariant⟩

end FeatureGate
