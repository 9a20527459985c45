import FeatureGate.Proofs.Expiry.Doomed
import FeatureGate.Proofs.Persistence.Lasting

/-!
# Expiry is final

Resolvers that share definitions, a store in memory and a clock that never goes back take turns
at tasks of any kind. Once a reading of the clock was past the expiry of a definition, the
feature and all that require it are inactive, for everyone and whatever is cached or stored,
until the feature is redefined (`Crew.expiry_is_final`).

A purge of what has expired goes by one reading of the clock. What it removes comes back by a
write only: the first write of a value never comes about for an expired feature.
-/

namespace FeatureGate

open Store (Rows)
open Record (Chronological)
open Resolver (Action Task Work Shut)

/-! ## Surroundings -/

/-- **Sources of groups that do not fail.** -/
structure Surroundings.Reliable {σ : Type} (around : Surroundings σ) : Prop where
  /-- Asking for the groups of a context key does not fail. -/
  groupsFor (key : String) (s : σ) :
    ∃ groups, ((around.answer (.groupsFor key)).run s).1 = .ok groups
  /-- Asking for the features of a group does not fail. -/
  featuresIn (group : String) (s : σ) :
    ∃ features, ((around.answer (.featuresIn group)).run s).1 = .ok features

namespace Surroundings

variable {σ α : Type} {around : Surroundings σ}

/-- **What is asked goes on record**, and nothing is taken off. -/
theorem history_run (around : Surroundings σ) (program : Program Resolver.interface α)
    (s : σ × List (Exchange Resolver.interface)) :
    s.2 <+: ((program.interpret around.recording).run s).2.2 := by
  obtain ⟨rest, hrun⟩ := Resolver.exists_run_transcribing around.answer program s.1 s.2
  exact ⟨rest, (congrArg (fun ran => ran.2.2) hrun).symm⟩

theorem Reliable.admits_recording (h : around.Reliable) :
    (Record.frail False).Admits around.recording fun known s => known = around.record s := by
  refine Record.admits_transcribing fun s history request => ⟨rfl, ?_⟩
  cases request with
  | store call => exact .inl (around.store call s)
  | groupsFor key =>
    obtain ⟨groups, hgroups⟩ := h.groupsFor key s
    refine ⟨around.other (by rintro _ ⟨⟩) s, fun _ herror => ?_⟩
    cases hgroups.symm.trans herror
  | featuresIn group =>
    obtain ⟨features, hfeatures⟩ := h.featuresIn group s
    refine ⟨around.other (by rintro _ ⟨⟩) s, fun _ herror => ?_⟩
    cases hfeatures.symm.trans herror
  | _ => exact around.other (by rintro _ ⟨⟩) s

/-- **A world whose clock goes on** by a second with each reading. -/
def ticking (membership : Membership) : Surroundings (World Rows) where
  answer
    | .clock => fun world =>
      (world.now, { world with now := (world.now.addSeconds? 1).getD world.now })
    | request => World.answer Store.memory membership request
  rows world := world.store
  store _ _ := ⟨rfl, rfl⟩
  other {request} h _ := by
    cases request with
    | store call => exact absurd rfl (h call)
    | _ => rfl

/-- Groups kept in memory do not fail. -/
theorem reliable_ticking (groups : Groups) : (ticking groups.membership).Reliable :=
  ⟨fun _ _ => ⟨_, rfl⟩, fun _ _ => ⟨_, rfl⟩⟩

end Surroundings

namespace Resolver

variable {resolver : Resolver} {feature key : String} {work : Work} {known : Record} {task : Task}

/-! ## Tasks -/

/-- **A task redefines a feature**, with a definition that is fit to be registered. -/
def Task.Redefines (feature : String) (task : Task) : Prop :=
  ∃ definition, task.definition? = some definition ∧ definition.name = feature
    ∧ definition.validate = .ok ()

/-- A task that writes values makes no first write. -/
theorem Task.not_writesBy_insert (resolver : Resolver) (ambient : Option Scope) (task : Task)
    (payload : Payload) : ¬ task.WritesBy resolver ambient (.insert feature key payload) := by
  unfold Task.WritesBy
  split
  all_goals first | exact not_false | rintro ⟨_, ⟨⟩⟩

/-- **A task leaves a definition** that it does not replace. -/
theorem yields_get?_of_not_redefines (htask : ¬ task.Redefines feature) :
    (task.action resolver).Yields (Record.frail False) work known fun _ after _ =>
      after.registry.get? feature = work.registry.get? feature := by
  have htolerant : Tolerant (Record.frail False) fun after _ =>
      after.registry.get? feature = work.registry.get? feature :=
    ⟨fun _ h => h, fun _ _ => trivial, fun _ _ h _ _ => h⟩
  by_cases hwrite : task.IsWrite
  · exact Action.Maintains.write htolerant hwrite (fun _ => .modify fun _ _ h => h)
      (fun _ _ _ _ h => .askStore trivial fun _ _ _ => h) rfl
  · by_cases hdefinition : task.IsDefinition
    · refine Action.Maintains.definition htolerant (fun after _ definition registry hat hdefine h =>
        ?_) hdefinition work known rfl
      rw [Registry.get?_define hdefine, if_neg]
      · exact h
      · exact fun hname => htask ⟨definition, hat, hname, Registry.validate_of_define hdefine⟩
    · refine ((Shut.asking resolver ⟨work, known⟩).task hwrite hdefinition work known
        (.refl _)).mono fun _ _ _ hshut => ?_
      rw [hshut.registry]

/-- **A task that does not write** leaves the rows of doomed features: to define features does
not touch any row, and everything else leaves them shut. -/
theorem yields_rows_of_doomed (hwrite : ¬ task.IsWrite) :
    (task.action resolver).Yields (Record.frail False) work known fun _ _ later =>
      Chronological later.history → ∀ feature key, work.registry.Doomed known.history feature →
        later.rows.get? feature key = known.rows.get? feature key := by
  by_cases hdefinition : task.IsDefinition
  · have htolerant : Tolerant (Record.frail False) fun _ later => later.rows = known.rows :=
      ⟨fun _ h => h, fun _ _ => trivial,
        fun _ _ h haside hgives => (Record.rows_of_aside haside hgives).trans h⟩
    refine (Action.Maintains.definition htolerant (fun _ _ _ _ _ _ h => h) hdefinition work known
      rfl).mono fun _ _ _ hrows _ _ _ _ => ?_
    rw [hrows]
  · exact ((Shut.asking resolver ⟨work, known⟩).task hwrite hdefinition work known
      (.refl _)).mono fun _ _ _ hshut hclock feature key => hshut.row key hclock

/-- **No row of a doomed feature appears** but by a task that sets it. -/
theorem yields_none_of_doomed (hdoomed : work.registry.Doomed known.history feature)
    (hset : ∀ payload, ¬ task.WritesBy resolver work.ambient (.set feature key payload))
    (hnone : known.rows.get? feature key = none) :
    (task.action resolver).Yields (Record.frail False) work known fun _ _ later =>
      Chronological later.history → later.rows.get? feature key = none := by
  by_cases hwrite : task.IsWrite
  · have htolerant : Tolerant (Record.frail False) fun _ later =>
        later.rows.get? feature key = none :=
      ⟨fun _ h => h, fun _ _ => trivial,
        fun _ _ h haside hgives => Record.rows_of_aside haside hgives ▸ h⟩
    refine (Action.Maintains.write htolerant hwrite (fun _ => .modify fun _ _ h => h)
      (fun call hcall _ before h => .askStore trivial fun _ after hgives => ?_) hnone).mono
        fun _ _ _ hnone _ => hnone
    rcases hgives.2 with ⟨-, hafter⟩ | ⟨hfail, -⟩
    · rw [hafter]
      refine Rows.get?_answer_eq_none h (fun payload => ?_) fun payload => ?_
      · rintro rfl
        exact Task.not_writesBy_insert _ _ _ _ hcall
      · rintro rfl
        exact hset payload hcall
    · exact hfail.elim
  · exact (yields_rows_of_doomed hwrite).mono fun _ _ _ hrows hclock =>
      (hrows hclock feature key hdoomed).trans hnone

/-! ## Purges -/

theorem yields_purge (resolver : Resolver) (names : List String) (work : Work) (known : Record) :
    (resolver.purge (some names)).Yields (Record.frail False) work known fun result _ later =>
      result = .ok () ∧ known.history <+: later.history
        ∧ later.rows = known.rows.purge (some names) := by
  have hcall : (askStore (.purge (some names))).Yields (Record.frail False) work known
      fun result _ later => result = .ok () ∧ known.history <+: later.history
        ∧ later.rows = known.rows.purge (some names) := by
    refine .askStore trivial fun reply later hgives => ?_
    rcases hgives.2 with ⟨rfl, hrows⟩ | ⟨hfail, -⟩
    · exact ⟨rfl, Record.history_of_gives hgives, hrows⟩
    · exact hfail.elim
  rw [purge_eq_overwrite]
  refine .bind hcall ?_ ?_
  · rintro _ mid middle ⟨-, hhistory, hrows⟩
    refine .modify_bind ?_
    unfold Resolver.emit
    split
    · exact .ask trivial fun _ later hgives =>
        ⟨rfl, hhistory.trans (Record.history_of_gives hgives), hgives.2.trans hrows⟩
    · exact ⟨rfl, hhistory, hrows⟩
  · rintro _ _ _ ⟨⟨⟩, -⟩

/-- **A purge of what has expired** reads the clock first, and removes the rows of the features
that have expired by then. -/
theorem yields_purgeExpired (resolver : Resolver) (work : Work) (known : Record) :
    resolver.purgeExpired.Yields (Record.frail False) work known fun result _ later =>
      ∃ now rest, later.history = known.history ++ ⟨.clock, now⟩ :: rest
        ∧ result = .ok (work.registry.expired now)
        ∧ ∀ feature key, later.rows.get? feature key
          = if feature ∈ work.registry.expired now then none
            else known.rows.get? feature key := by
  unfold Resolver.purgeExpired
  refine .ask_bind trivial fun (now : Instant) read hgives => .get_bind ?_
  have hread : read.history = known.history ++ [⟨.clock, now⟩] := hgives.1
  have hrows : read.rows = known.rows := hgives.2
  dsimp only
  split
  · refine .bind (yields_purge resolver _ work read) ?_ ?_
    · rintro _ after later ⟨-, ⟨rest, hhistory⟩, hpurged⟩
      refine ⟨now, rest, ?_, rfl, fun feature key => ?_⟩
      · rw [← hhistory, hread, List.append_assoc]
        rfl
      · rw [hpurged, Rows.get?_purge_some, hrows]
    · rintro _ _ _ ⟨⟨⟩, -⟩
  · rename_i hempty
    refine ⟨now, [], hread, rfl, fun feature key => ?_⟩
    have hnil : work.registry.expired now = [] := by simpa using hempty
    rw [hnil, hrows, if_neg List.not_mem_nil]

end Resolver

/-! ## Crews -/

namespace Crew

variable {σ : Type} {around : Surroundings σ} {feature key : String}
  {crew : Crew (σ × List (Exchange Resolver.interface))} {turn : Turn} {turns : List Turn}

/-- **A turn sets a row**: whoever takes it writes the row of a context. -/
def Sets (turn : Turn) (feature key : String)
    (crew : Crew (σ × List (Exchange Resolver.interface))) : Prop :=
  ∃ member payload, crew.members[turn.member]? = some member
    ∧ turn.task.WritesBy member.resolver member.work.ambient (.set feature key payload)

/-- **Turns that forgo a row**: they neither set it nor redefine the feature. -/
def Forgoes (around : Surroundings σ) (feature key : String) :
    List Turn → Crew (σ × List (Exchange Resolver.interface)) → Prop
  | [], _ => True
  | turn :: rest, crew => ¬ turn.task.Redefines feature ∧ ¬ crew.Sets turn feature key
      ∧ Forgoes around feature key rest (crew.take around.recording turn).2

theorem history_take (around : Surroundings σ)
    (crew : Crew (σ × List (Exchange Resolver.interface))) (turn : Turn) :
    crew.state.2 <+: (crew.take around.recording turn).2.state.2 := by
  cases hat : crew.members[turn.member]? with
  | none => exact take_of_none hat ▸ List.prefix_refl _
  | some member =>
    rw [take_of_member hat]
    exact around.history_run _ crew.state

theorem history_after (around : Surroundings σ)
    (crew : Crew (σ × List (Exchange Resolver.interface))) (turns : List Turn) :
    crew.state.2 <+: (crew.after around.recording turns).state.2 := by
  induction turns generalizing crew with
  | nil => exact List.prefix_refl _
  | cons turn rest ih => exact (history_take around crew turn).trans (ih _)

section Reliable

variable (hreliable : around.Reliable)
include hreliable

/-- **A turn** leaves it at that a feature has expired, if it does not redefine it. -/
theorem seenExpired_take (h : crew.registry.SeenExpired crew.state.2 feature)
    (hturn : ¬ turn.task.Redefines feature) :
    (crew.take around.recording turn).2.registry.SeenExpired
      (crew.take around.recording turn).2.state.2 feature := by
  refine h.onward ?_ (history_take around crew turn)
  cases hat : crew.members[turn.member]? with
  | none => rw [take_of_none hat]
  | some member =>
    rw [take_of_member hat]
    exact run_of_yields hreliable.admits_recording
      (Resolver.yields_get?_of_not_redefines hturn)

/-- **A sequence of turns** leaves it at that a feature has expired, if none redefines it. -/
theorem seenExpired_after (h : crew.registry.SeenExpired crew.state.2 feature)
    (hturns : ∀ turn ∈ turns, ¬ turn.task.Redefines feature) :
    (crew.after around.recording turns).registry.SeenExpired
      (crew.after around.recording turns).state.2 feature := by
  induction turns generalizing crew with
  | nil => exact h
  | cons turn rest ih =>
    obtain ⟨hturn, hrest⟩ := List.forall_mem_cons.mp hturns
    exact ih (seenExpired_take hreliable h hturn) hrest

/-- **A turn** adds no row for a feature that has expired, if it does not set it. -/
theorem none_take (h : crew.registry.SeenExpired crew.state.2 feature)
    (hset : ¬ crew.Sets turn feature key)
    (hnone : (around.record crew.state).rows.get? feature key = none)
    (hclock : Chronological (crew.take around.recording turn).2.state.2) :
    (around.record (crew.take around.recording turn).2.state).rows.get? feature key = none := by
  cases hat : crew.members[turn.member]? with
  | none => rwa [take_of_none hat]
  | some member =>
    rw [take_of_member hat] at hclock ⊢
    exact run_of_yields hreliable.admits_recording (Resolver.yields_none_of_doomed h.doomed
      (fun payload hwrites => hset ⟨member, payload, hat, hwrites⟩) hnone) hclock

/-- **A sequence of turns** adds no row for a feature that has expired, if it forgoes it. -/
theorem none_after (h : crew.registry.SeenExpired crew.state.2 feature)
    (hforgoes : crew.Forgoes around feature key turns)
    (hnone : (around.record crew.state).rows.get? feature key = none)
    (hclock : Chronological (crew.after around.recording turns).state.2) :
    (around.record (crew.after around.recording turns).state).rows.get? feature key = none := by
  induction turns generalizing crew with
  | nil => exact hnone
  | cons turn rest ih =>
    obtain ⟨hredefines, hset, hrest⟩ := hforgoes
    have hclock' := hclock.of_prefix (history_after around _ rest)
    exact ih (seenExpired_take hreliable h hredefines) hrest
      (none_take hreliable h hset hnone hclock') hclock

/-- **A turn purges what has expired**: by the reading of the clock that comes first, which is on
record then. -/
theorem take_purgeExpired {taker : Nat} (htaker : taker < crew.members.length) :
    let purged := crew.take around.recording ⟨taker, .operation .purgeExpired⟩
    ∃ now rest, purged.1 = some ⟨.operation .purgeExpired, .ok (crew.registry.expired now)⟩
      ∧ purged.2.state.2 = crew.state.2 ++ ⟨.clock, now⟩ :: rest
      ∧ (∀ feature key, (around.record purged.2.state).rows.get? feature key
          = if feature ∈ crew.registry.expired now then none
            else (around.record crew.state).rows.get? feature key)
      ∧ ∀ feature ∈ crew.registry.expired now,
          purged.2.registry.SeenExpired purged.2.state.2 feature := by
  intro purged
  have hpurged : purged = _ := take_of_member (List.getElem?_eq_getElem htaker)
  obtain ⟨now, rest, hhistory, hresult, hrows⟩ :=
    run_of_yields hreliable.admits_recording
      (Resolver.yields_purgeExpired crew.members[taker].resolver
        { crew.members[taker].work with registry := crew.registry } (around.record crew.state))
  rw [hpurged]
  refine ⟨now, rest, congrArg (fun result =>
    some (⟨.operation .purgeExpired, result⟩ : Task.Outcome)) hresult, hhistory, hrows, ?_⟩
  intro feature hfeature
  obtain ⟨definition, hget, hexpired⟩ := Registry.mem_expired_iff_exists.mp hfeature
  have hread : ⟨.clock, now⟩ ∈ (around.record (crew.run around.recording crew.members[taker]
      crew.members[taker].resolver.purgeExpired).2).history := by
    rw [hhistory]
    exact List.mem_append_right _ List.mem_cons_self
  refine ⟨definition, now, ?_, hread, hexpired⟩
  refine Eq.trans (run_of_yields hreliable.admits_recording
    (Resolver.yields_get?_of_not_redefines ?_)) hget
  rintro ⟨_, ⟨⟩, -⟩

end Reliable

end Crew

/-- **Expiry is final, and reaches dependants.** Resolvers share definitions, a store in memory
that nobody else uses, and groups that do not fail; whatever is defined, cached and stored to
begin with. As long as the clock does not go back:

* Once a reading of it was past the expiry of a definition, and until the feature is redefined,
  the feature and all that require it, directly or through others, come out inactive for every
  context, and no task but a write changes a row of theirs.
* A purge of what has expired tells the names of exactly the features that have expired by its
  reading of the clock, in increasing order, and removes exactly their rows. None of these rows
  is there again until it is set, or the feature is redefined. -/
theorem Crew.expiry_is_final {σ : Type} (around : Surroundings σ) (hreliable : around.Reliable)
    (crew : Crew (σ × List (Exchange Resolver.interface))) :
    let answer := around.recording
    let row (s : σ × List (Exchange Resolver.interface)) := (around.record s).rows.get?
    (∀ feature turns, crew.registry.SeenExpired crew.state.2 feature →
      (∀ turn ∈ turns, ¬ turn.task.Redefines feature) →
        let later := crew.after answer turns
        ∀ dependant, later.registry.Needs dependant feature → ∀ member : Crew.Member,
          (∀ context,
            let ran := later.run answer member (member.resolver.resolve dependant context)
            Chronological ran.2.2 → ran.1.1 = .ok .inactive)
          ∧ ∀ task : Task, ¬ task.IsWrite →
            let ran := later.run answer member (task.action member.resolver)
            Chronological ran.2.2 →
              ∀ key, row ran.2 dependant key = row later.state dependant key)
    ∧ ∀ taker < crew.members.length,
        let purged := crew.take answer ⟨taker, .operation .purgeExpired⟩
        ∃ now names rest, purged.1 = some ⟨.operation .purgeExpired, .ok names⟩
          ∧ purged.2.state.2 = crew.state.2 ++ ⟨.clock, now⟩ :: rest
          ∧ names.Pairwise (· < ·)
          ∧ (∀ feature, feature ∈ names ↔ ∃ definition,
              crew.registry.get? feature = some definition ∧ definition.isExpiredAt now)
          ∧ (∀ feature key, row purged.2.state feature key
              = if feature ∈ names then none else row crew.state feature key)
          ∧ ∀ feature ∈ names, ∀ key turns, purged.2.Forgoes around feature key turns →
              let later := purged.2.after answer turns
              Chronological later.state.2 → row later.state feature key = none := by
  intro answer row
  constructor
  · intro feature turns hseen hturns later dependant hneeds member
    have hdoomed : later.registry.Doomed later.state.2 dependant :=
      ⟨feature, hneeds, Crew.seenExpired_after hreliable hseen hturns⟩
    refine ⟨fun context => Crew.run_of_yields hreliable.admits_recording
      (Shut.yields_resolve_of_doomed hdoomed), ?_⟩
    intro task hwrite ran hclock key
    exact Crew.run_of_yields hreliable.admits_recording (Resolver.yields_rows_of_doomed hwrite)
      hclock dependant key hdoomed
  · intro taker htaker purged
    obtain ⟨now, rest, houtcome, hhistory, hrows, hseen⟩ :=
      Crew.take_purgeExpired hreliable htaker
    refine ⟨now, crew.registry.expired now, rest, houtcome, hhistory,
      Registry.pairwise_expired _ now, fun _ => Registry.mem_expired_iff_exists, hrows, ?_⟩
    intro feature hfeature key turns hforgoes later hclock
    exact Crew.none_after hreliable (hseen feature hfeature) hforgoes
      ((hrows feature key).trans (if_pos hfeature)) hclock

/-- A feature is on for ada, and so is one that requires it, both cached. Then the first one
expires between two readings of the clock. The other one is loaded, set for her and granted to
her group, and is inactive all the same. A purge removes the row of the first one, and to load
both of them again does not bring it back. -/
theorem Crew.expiry_is_final_of_cached :
    let resolver : Resolver := ⟨.none, .standard, true, false, none⟩
    let ada := Context.scalar "ada"
    let base : Definition := ⟨"base", none, .constant (.bool true), some ⟨.epoch⟩, []⟩
    let paid : Definition := ⟨"paid", none, .constant (.bool true), none, ["base"]⟩
    let registry : Registry :=
      ⟨((∅ : Std.ExtTreeMap String Definition).insert "base" base).insert "paid" paid⟩
    let groups := (Groups.empty.addMember "staff" "ada").grant "staff" "paid"
    let around := Surroundings.ticking groups.membership
    let start := Crew.start registry [(resolver, none)]
      (World.start ⟨-1, 0, by decide⟩ ∅ ⟨[]⟩, [])
    let crew := start.after around.recording
      [⟨0, .operation (.resolve "paid" ada)⟩, ⟨0, .operation (.resolve "base" ada)⟩]
    let turns : List Crew.Turn := [⟨0, .operation (.load ["base", "paid"] [ada])⟩,
      ⟨0, .operation (.activate "paid" ada)⟩, ⟨0, .operation (.activateForGroup "paid" "staff")⟩]
    let later := crew.after around.recording turns
    let purged := (later.take around.recording ⟨0, .operation .purgeExpired⟩).2
    let loads : List Crew.Turn := [⟨0, .operation (.load ["base", "paid"] [ada])⟩]
    let row (crew : Crew (World Rows × List (Exchange Resolver.interface))) :=
      (around.record crew.state).rows.get? "base" "ada"
    (∀ member ∈ crew.members, member.work.cache.get? "paid" "ada" = some (.active (.bool true)))
      ∧ (∀ member ∈ later.members, (later.run around.recording member
          (member.resolver.resolve "paid" ada)).1.1 = .ok .inactive)
      ∧ row later = some (.bool true) ∧ row purged = none
      ∧ row (purged.after around.recording loads) = none := by
  intro resolver ada base paid registry groups around start crew turns later purged loads row
  have hcached : ∀ member ∈ crew.members,
      member.work.cache.get? "paid" "ada" = some (.active (.bool true)) := by decide +kernel
  have hrow : row later = some (.bool true) := by decide +kernel
  have hread : ⟨.clock, ⟨1, 0, by decide⟩⟩ ∈ crew.state.2 :=
    Record.mem_readings.mp (by decide +kernel)
  have hseen : crew.registry.SeenExpired crew.state.2 "base" :=
    ⟨base, _, by decide +kernel, hread, rfl⟩
  have hturns : ∀ turn ∈ turns, ¬ turn.task.Redefines "base" := by
    simp only [turns, List.forall_mem_cons]
    refine ⟨?_, ?_, ?_, fun _ h => absurd h List.not_mem_nil⟩ <;> rintro ⟨_, ⟨⟩, -⟩
  have hneeds : later.registry.Needs "paid" "base" :=
    .single ⟨paid, by decide +kernel, List.mem_singleton_self _⟩
  have hclock : ∀ member ∈ later.members, Chronological (later.run around.recording member
      (member.resolver.resolve "paid" ada)).2.2 := by decide +kernel
  have hpurged : Chronological purged.state.2 := by decide +kernel
  have hloaded : Chronological (purged.after around.recording loads).state.2 := by decide +kernel
  have hdefined : later.registry.get? "base" = some base := by decide +kernel
  have hmembers : 0 < later.members.length := by decide +kernel
  have hreliable : around.Reliable := Surroundings.reliable_ticking groups
  -- this is all there is to compute
  clear_value crew around
  have hlater : crew.state.2 <+: later.state.2 := Crew.history_after around crew turns
  obtain ⟨hinactive, -⟩ := Crew.expiry_is_final around hreliable crew
  obtain ⟨-, hpurge⟩ := Crew.expiry_is_final around hreliable later
  obtain ⟨now, names, rest, -, hhistory, -, hnames, hrows, hgone⟩ := hpurge 0 hmembers
  -- the purge read the clock after it was past the expiry
  have hname : "base" ∈ names := by
    have hafter : now.before ⟨1, 0, by decide⟩ = false :=
      (hhistory ▸ hpurged).before_eq_false (hlater.subset hread) List.mem_cons_self
    exact (hnames "base").mpr ⟨base, hdefined, Definition.isExpiredAt_later rfl hafter⟩
  have hforgoes : purged.Forgoes around "base" "ada" loads := by
    refine ⟨?_, ?_, trivial⟩
    · rintro ⟨_, ⟨⟩, -⟩
    · rintro ⟨_, _, -, ⟨⟩⟩
  refine ⟨hcached, fun member hmember => ?_, hrow, (hrows "base" "ada").trans (if_pos hname),
    hgone "base" hname "ada" loads hforgoes hloaded⟩
  exact (hinactive "base" turns hseen hturns "paid" hneeds member).1 ada (hclock member hmember)

end FeatureGate
