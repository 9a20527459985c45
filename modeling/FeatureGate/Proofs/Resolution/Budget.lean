import Mathlib.Data.List.Basic
import FeatureGate.Proofs.Nesting.Amid
import FeatureGate.Proofs.Persistence.Record
import FeatureGate.Proofs.Tasks

/-!
# The budget of a unit of work

A unit of work keeps the values that it resolved, but not what came of the gates: what a
feature requires is gone through again each time, so that one feature may be come to
very often within one call, and again in later ones.

What is spent on a feature and a context key – a read of the row, its first write, a
report of either sort – is spent once at most all the same. It is spent on the way to an
entry of the cache, where there is none yet (`Record.Affords`); and entries stay, as long
as nothing but queries is asked of the unit of work.
-/

namespace FeatureGate

/-- What may be spent on a feature and a context key. -/
inductive Expense.Sort where
  /-- A read of the row. -/
  | read
  /-- A first write of the row. -/
  | write
  /-- A report that the feature was resolved. -/
  | report
  /-- A report that a feature was resolved that is not defined. -/
  | reportUnknown
deriving DecidableEq

/-- **An expense.** -/
structure Expense where
  /-- What is spent. -/
  sort : Expense.Sort
  /-- The feature it is spent on. -/
  feature : String
  /-- The context key it is spent on. -/
  key : String
deriving DecidableEq

/-- **What a request costs**, if it costs anything. -/
def Request.expense? : Request → Option Expense
  | .store (.get feature key) => some ⟨.read, feature, key⟩
  | .store (.insert feature key _) => some ⟨.write, feature, key⟩
  | .deliver (.resolved feature key _) => some ⟨.report, feature, key⟩
  | .deliver (.unknownFeatureResolved feature key) => some ⟨.reportUnknown, feature, key⟩
  | _ => none

namespace Record

variable {known after : Record} {left left' : Expense → Prop} {request : Request}
  {reply : request.Reply}

/-- **How often an expense was incurred.** -/
def spent (known : Record) (expense : Expense) : Nat :=
  known.history.countP (·.call.expense? = some expense)

/-- **Nothing was spent twice**, and what is left was not spent at all. -/
def Affords (known : Record) (left : Expense → Prop) : Prop :=
  ∀ expense, known.spent expense ≤ 1 ∧ (left expense → known.spent expense = 0)

theorem spent_of_gives (hgives : protocol.Gives known request reply after) (expense : Expense) :
    after.spent expense
      = known.spent expense + if request.expense? = some expense then 1 else 0 := by
  unfold spent
  rw [hgives.1, List.countP_append, List.countP_singleton]
  simp

namespace Affords

theorem mono (h : known.Affords left) (hleft : ∀ expense, left' expense → left expense) :
    known.Affords left' :=
  fun expense => ⟨(h expense).1, fun hexpense => (h expense).2 (hleft expense hexpense)⟩

/-- **What is left may be spent**, and is not left any more. -/
theorem spend (h : known.Affords left) (hgives : protocol.Gives known request reply after)
    (hleft : ∀ expense ∈ request.expense?, left expense) :
    after.Affords fun expense => left expense ∧ expense ∉ request.expense? := by
  intro expense
  obtain ⟨hle, hzero⟩ := h expense
  rw [spent_of_gives hgives]
  by_cases hspent : request.expense? = some expense
  · rw [hzero (hleft expense hspent), if_pos hspent]
    exact ⟨Nat.le_refl 1, fun hexpense => absurd hspent hexpense.2⟩
  · rw [if_neg hspent]
    exact ⟨hle, fun hexpense => hzero hexpense.1⟩

/-- A request that costs nothing leaves everything. -/
theorem keep (h : known.Affords left) (hgives : protocol.Gives known request reply after)
    (hfree : request.expense? = none) : after.Affords left := by
  refine (h.spend hgives ?_).mono fun expense hexpense => ⟨hexpense, ?_⟩
  · rw [hfree]
    exact nofun
  · rw [hfree]
    exact nofun

end Affords

end Record

namespace Resolver

/-- **A unit of work within its budget**: nothing was spent twice, and nothing at all on
what is not cached. -/
def Within (work : Work) (known : Record) : Prop :=
  known.Affords fun expense => work.cache.get? expense.feature expense.key = none

/-- **What is left once a value was found** for a feature and a context key, of what was
left before: of what concerns them, the report only. -/
structure LeftAfter (feature key : String) (left : Expense → Prop) (expense : Expense) : Prop where
  /-- It was left before. -/
  left : left expense
  /-- It is the report, or concerns others. -/
  report : expense.feature = feature → expense.key = key → expense.sort = .report

theorem LeftAfter.ne {feature key : String} {left : Expense → Prop} {expense : Expense}
    (h : LeftAfter feature key left expense) (sort : Expense.Sort) (hsort : sort ≠ .report) :
    expense ≠ ⟨sort, feature, key⟩ := by
  rintro rfl
  exact hsort (h.report rfl rfl)

namespace Within

open Resolver.Action (Maintains Yields)

variable {resolver : Resolver} {feature key : String} {context : Context} {work : Work}
  {known : Record} {left : Expense → Prop}

/-- **A value is found**, at the expense of a feature and a context key. -/
abbrev Finds (feature key : String) (left : Expense → Prop) (work : Work)
    (result : Except FeatureError FeatureValue) (after : Work) (known : Record) : Prop :=
  (∃ value, result = .ok value) ∧ after = work ∧ known.Affords (LeftAfter feature key left)

/-- **An event is reported** if the report is left. -/
theorem emit (h : known.Affords left) {event : Event}
    (hleft : ∀ expense ∈ (Request.deliver event).expense?, left expense) :
    (resolver.emit event).Yields Record.protocol work known fun result after later =>
      result = .ok ⟨⟩ ∧ after = work ∧ later.Affords fun expense =>
        left expense ∧ expense ∉ (Request.deliver event).expense? := by
  unfold Resolver.emit
  split
  · exact .ask trivial fun _ _ hgives => ⟨rfl, rfl, h.spend hgives hleft⟩
  · exact .pure ⟨rfl, rfl, h.mono fun _ => And.left⟩

/-- **The first write** of a row that is wanting succeeds. -/
theorem insertFirst
    (h : known.Affords fun expense => left expense ∧ expense ≠ ⟨.read, feature, key⟩)
    (hleft : left ⟨.write, feature, key⟩) (hrow : known.rows.get? feature key = none)
    (payload : Payload) :
    (do askStore (.insert feature key payload)
        return .ofPayload payload : Action FeatureValue).Yields Record.protocol work known
      (Finds feature key left work) := by
  have hwritten : (askStore (.insert feature key payload)).Yields Record.protocol work known
      fun result after later => result = .ok () ∧ after = work
        ∧ later.Affords (LeftAfter feature key left) := by
    refine .askStore trivial fun reply later hgives => ⟨?_, rfl, ?_⟩
    · rw [hgives.2.1, Store.Rows.answer_insert_of_none hrow]
      rfl
    · refine (h.spend hgives ?_).mono fun expense hexpense => ?_
      · rintro _ ⟨⟩
        exact ⟨hleft, nofun⟩
      · refine ⟨⟨hexpense.left, hexpense.ne .read nofun⟩, ?_⟩
        rintro ⟨⟩
        exact hexpense.ne .write nofun rfl
  refine .bind hwritten ?_ ?_
  · rintro _ _ _ ⟨-, rfl, hafter⟩
    exact ⟨⟨_, rfl⟩, rfl, hafter⟩
  · rintro _ _ _ ⟨⟨⟩, -⟩

/-- **A first value** is written if there is no row. -/
theorem firstValue
    (h : known.Affords fun expense => left expense ∧ expense ≠ ⟨.read, feature, key⟩)
    (hleft : left ⟨.write, feature, key⟩) (hrow : known.rows.get? feature key = none)
    (definition : Definition) :
    (do let payload ← firstPayload definition context key
        askStore (.insert feature key payload)
        return .ofPayload payload : Action FeatureValue).Yields Record.protocol work known
      (Finds feature key left work) := by
  unfold firstPayload
  cases definition.firstPayload key with
  | inl closure =>
    refine .ask_bind trivial fun payload later hgives => ?_
    have hrow' : later.rows.get? feature key = none := by rw [hgives.2, hrow]
    exact insertFirst (h.keep hgives rfl) hleft hrow' payload
  | inr payload => exact insertFirst h hleft hrow payload

/-- **Reading or computing** succeeds, at the expense of one read, and of one write or one
report more. -/
theorem readOrCompute (h : known.Affords left) (hleft : ∀ sort, left ⟨sort, feature, key⟩)
    (definition : Option Definition) :
    (resolver.readOrCompute feature context key definition).Yields Record.protocol work known
      (Finds feature key left work) := by
  unfold Resolver.readOrCompute
  have hread : (askStore (.get feature key)).Yields Record.protocol work known
      fun result after later => result = .ok (later.rows.get? feature key) ∧ after = work
        ∧ later.Affords fun expense => left expense ∧ expense ≠ ⟨.read, feature, key⟩ := by
    refine .askStore trivial fun reply later hgives => ⟨?_, rfl, ?_⟩
    · rw [hgives.2.1, hgives.2.2]
      rfl
    · refine (h.spend hgives ?_).mono fun expense hexpense => ⟨hexpense.1, ?_⟩
      · rintro _ ⟨⟩
        exact hleft _
      · rintro ⟨⟩
        exact hexpense.2 rfl
  refine .bind hread ?_ (by rintro _ _ _ ⟨⟨⟩, -⟩)
  rintro row _ next ⟨hanswer, rfl, hnext⟩
  cases hrow : next.rows.get? feature key with
  | some payload =>
    rw [hrow] at hanswer
    obtain ⟨⟩ := hanswer
    exact ⟨⟨_, rfl⟩, rfl, hnext.mono fun _ hexpense =>
      ⟨hexpense.left, hexpense.ne .read nofun⟩⟩
  | none =>
    rw [hrow] at hanswer
    obtain ⟨⟩ := hanswer
    cases definition with
    | none =>
      refine .bind (emit hnext ?_) ?_ (by rintro _ _ _ ⟨⟨⟩, -⟩)
      · rintro _ ⟨⟩
        exact ⟨hleft _, nofun⟩
      · rintro _ _ later ⟨-, rfl, hlater⟩
        refine ⟨⟨_, rfl⟩, rfl, hlater.mono fun _ hexpense =>
          ⟨⟨hexpense.left, hexpense.ne .read nofun⟩, ?_⟩⟩
        rintro ⟨⟩
        exact hexpense.ne .reportUnknown nofun rfl
    | some definition => exact firstValue hnext (hleft _) hrow definition

/-- A value is found without a second try, since nobody else writes. -/
theorem readOrInitialize (h : known.Affords left) (hleft : ∀ sort, left ⟨sort, feature, key⟩)
    (definition : Option Definition) :
    (resolver.readOrInitialize feature context key definition).Yields Record.protocol work known
      (Finds feature key left work) := by
  unfold Resolver.readOrInitialize
  have hattempt : (attempt (resolver.readOrCompute feature context key definition)).Yields
      Record.protocol work known fun outcome after later => ∃ value, outcome = .ok (.ok value)
        ∧ after = work ∧ later.Affords (LeftAfter feature key left) := by
    refine .attempt ((readOrCompute h hleft definition).mono ?_)
    rintro _ _ _ ⟨⟨value, rfl⟩, hafter⟩
    exact ⟨value, rfl, hafter⟩
  refine .bind hattempt ?_ (by rintro _ _ _ ⟨_, ⟨⟩, -⟩)
  rintro _ _ _ ⟨value, ⟨⟩, hafter⟩
  exact ⟨⟨value, rfl⟩, hafter⟩

/-- **A value is kept and reported**, and the unit of work is within its budget. -/
theorem keep (resolver : Resolver) (definition : Option Definition) (value : FeatureValue)
    (h : known.Affords (LeftAfter feature key fun expense =>
      work.cache.get? expense.feature expense.key = none))
    (hcache : work.cache.get? feature key = none) :
    (do modifyCache (·.put feature key value)
        if definition.isSome then
          resolver.emit (.resolved feature key value)
        return value : Action FeatureValue).Yields Record.protocol work known
      fun _ after later => Within after later := by
  -- nothing is left of what concerns the feature and the key, once they have an entry
  have hleft : ∀ expense : Expense,
      (work.cache.put feature key value).get? expense.feature expense.key = none →
      work.cache.get? expense.feature expense.key = none
        ∧ ¬ (expense.feature = feature ∧ expense.key = key) := by
    intro expense hexpense
    rw [Cache.get?_put] at hexpense
    split at hexpense
    · cases hexpense
    · rename_i hne
      exact ⟨hexpense, fun hat => hne ⟨hat.1.symm, hat.2.symm⟩⟩
  refine .modify_bind ?_
  dsimp only
  split
  · refine .bind (emit h ?_) ?_ (by rintro _ _ _ ⟨⟨⟩, -⟩)
    · rintro _ ⟨⟩
      exact ⟨hcache, fun _ _ => rfl⟩
    · rintro _ _ later ⟨-, rfl, hlater⟩
      refine hlater.mono fun expense hexpense => ?_
      obtain ⟨hnone, hne⟩ := hleft expense hexpense
      refine ⟨⟨hnone, fun hf hk => absurd ⟨hf, hk⟩ hne⟩, ?_⟩
      rintro ⟨⟩
      exact hne ⟨rfl, rfl⟩
  · refine h.mono fun expense hexpense => ?_
    obtain ⟨hnone, hne⟩ := hleft expense hexpense
    exact ⟨hnone, fun hf hk => absurd ⟨hf, hk⟩ hne⟩

/-- **An open feature is resolved within the budget.** -/
theorem resolveOpen (hgroups : resolver.consultsGroups = false) (feature : String)
    (context : Context) (key : String) (definition : Option Definition) :
    (resolver.resolveOpen feature context key definition).Maintains Record.protocol Within := by
  intro work known h
  unfold Resolver.resolveOpen
  rw [groupValue_of_no_groups hgroups]
  refine .get_bind ?_
  cases hcache : work.cache.get? feature key with
  | some value => exact h
  | none =>
    refine .bind (readOrInitialize h (fun _ => hcache) definition) ?_
      (by rintro _ _ _ ⟨⟨_, ⟨⟩⟩, -⟩)
    rintro own _ later ⟨-, rfl, hlater⟩
    have hkeep := keep resolver definition own hlater hcache
    dsimp only
    split
    · exact hkeep
    · exact hkeep

/-- A request that costs nothing maintains the budget. -/
theorem ask_of_free {request : Request} (hfree : request.expense? = none) :
    (ask request).Maintains Record.protocol Within :=
  fun _ _ h => .ask trivial fun _ _ hgives => Record.Affords.keep h hgives hfree

theorem amid (hgroups : resolver.consultsGroups = false) (context : Context) :
    Amid Record.protocol Within resolver context [] where
  guard _ h := h
  clock := ask_of_free rfl
  reportCycle _ _ := .reportCycle (ask_of_free rfl) fun _ => ask_of_free rfl
  resolveOpen _ _ := resolveOpen hgroups _ _ _ _

/-- **A query** maintains the budget. -/
theorem query (hgroups : resolver.consultsGroups = false) {task : Task} (htask : task.IsQuery) :
    (task.action resolver).Maintains Record.protocol Within :=
  .query (fun feature context => (amid hgroups context).resolve feature) htask

end Within

end Resolver

/-! ## Sequences of queries -/

namespace Crew

open Resolver (Task Within)

variable {σ : Type} {around : Surroundings σ} {resolver : Resolver}
  {crew : Crew (σ × List (Exchange Resolver.interface))}

/-- **A resolver by itself**, within the budget of its unit of work. -/
def WithinBudget (around : Surroundings σ) (resolver : Resolver)
    (crew : Crew (σ × List (Exchange Resolver.interface))) : Prop :=
  ∃ work, crew.members = [⟨resolver, work⟩] ∧ Within work (around.record crew.state)

theorem WithinBudget.start (around : Surroundings σ) (registry : Registry) (resolver : Resolver)
    (ambient : Option Scope) (s : σ) :
    (Crew.start registry [(resolver, ambient)] (s, [])).WithinBudget around resolver :=
  ⟨_, rfl, fun _ => ⟨Nat.zero_le 1, fun _ => rfl⟩⟩

/-- **A query** stays within the budget. -/
theorem WithinBudget.take (h : crew.WithinBudget around resolver)
    (hgroups : resolver.consultsGroups = false) {task : Task} (htask : task.IsQuery) :
    (crew.take around.recording ⟨0, task⟩).2.WithinBudget around resolver := by
  obtain ⟨work, hmembers, hwithin⟩ := h
  have hat : crew.members[(⟨0, task⟩ : Turn).member]? = some ⟨resolver, work⟩ := by
    rw [hmembers]
    rfl
  have hafter := (Within.query hgroups htask { work with registry := crew.registry } _ hwithin).run
    around.admits_recording
  rw [take_of_member hat, hmembers]
  exact ⟨_, rfl, hafter⟩

/-- **A sequence of queries** stays within the budget. -/
theorem WithinBudget.after (h : crew.WithinBudget around resolver)
    (hgroups : resolver.consultsGroups = false) {tasks : List Task}
    (htasks : ∀ task ∈ tasks, task.IsQuery) :
    (crew.after around.recording (tasks.map (⟨0, ·⟩))).WithinBudget around resolver := by
  induction tasks generalizing crew with
  | nil => exact h
  | cons task rest ih =>
    rw [List.forall_mem_cons] at htasks
    exact ih (h.take hgroups htasks.1) htasks.2

/-- **The budget of a unit of work.** A resolver that consults no groups starts with nothing
cached, over a store in memory that nobody else writes to, and answers queries one after
another, for any contexts. Whatever the definitions are, and whatever the clock and the
closures answer, then over the whole sequence each row is read once at most and written
for the first time once at most, and each feature is reported once at most for a context
key as resolved, and once at most as not defined. -/
theorem queries_within_budget (around : Surroundings σ) (registry : Registry)
    (resolver : Resolver) (ambient : Option Scope) (s : σ) (tasks : List Task)
    (hgroups : resolver.consultsGroups = false) (htasks : ∀ task ∈ tasks, task.IsQuery) :
    let crew := Crew.start registry [(resolver, ambient)] (s, [])
    let later := crew.after around.recording (tasks.map (⟨0, ·⟩))
    ∀ expense : Expense, (around.record later.state).spent expense ≤ 1 := by
  intro crew later expense
  obtain ⟨_, -, hwithin⟩ :=
    (WithinBudget.start around registry resolver ambient s).after hgroups htasks
  exact (hwithin expense).1

/-- A feature is required by two others, and both of them by a fourth one. It is asked for
through all of them, and by itself: its row is read and written once, and it is reported
once. -/
theorem queries_within_budget_of_diamond :
    let requiring (name : String) (required : List String) : Definition :=
      { Definition.ofRule name (.constant (.bool true)) with required }
    let registry : Registry := ⟨(((∅ : Std.ExtTreeMap String Definition).insert "base"
      (requiring "base" [])).insert "left" (requiring "left" ["base"])).insert "right"
      (requiring "right" ["base"]) |>.insert "top" (requiring "top" ["left", "right"])⟩
    let resolver : Resolver := ⟨.none, .standard, false, true, none⟩
    let world : World Store.Rows := .start .epoch ∅ .empty
    let around := Surroundings.world .none
    let ada := Context.scalar "ada"
    let tasks : List Task := [.operation (.resolve "top" ada),
      .operation (.values ["right", "base", "gone"] ada), .isActive "top" ada]
    let crew := Crew.start registry [(resolver, none)] (world, [])
    let later := crew.after around.recording (tasks.map (⟨0, ·⟩))
    (∀ sort, (around.record later.state).spent ⟨sort, "base", "ada"⟩ ≤ 1)
      ∧ (around.record later.state).spent ⟨.read, "base", "ada"⟩ = 1
      ∧ (around.record later.state).spent ⟨.write, "base", "ada"⟩ = 1
      ∧ (around.record later.state).spent ⟨.report, "base", "ada"⟩ = 1
      ∧ (around.record later.state).spent ⟨.reportUnknown, "gone", "ada"⟩ = 1 := by
  intro requiring registry resolver world around ada tasks crew later
  have htasks : ∀ task ∈ tasks, task.IsQuery := by simp [tasks, Task.IsQuery]
  refine ⟨fun sort => queries_within_budget around registry resolver none world tasks rfl htasks _,
    ?_, ?_, ?_, ?_⟩
  · decide +kernel
  · decide +kernel
  · decide +kernel
  · decide +kernel

end Crew

end FeatureGate
