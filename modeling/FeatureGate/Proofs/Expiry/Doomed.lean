import FeatureGate.Proofs.Expiry.Readings
import FeatureGate.Proofs.Nesting.Passing
import FeatureGate.Proofs.Tasks

/-!
# Doomed features

A gate is found open after a reading of the clock, and after all features required came out
active. So the gate of a doomed feature is never found open again (`Shut.undoomed`), and
what is done for open features only, such as looking into the cache, reading and writing rows
and asking groups, is not done for it. It comes out inactive, and its rows stay as they are.

Nothing of this needs the store or the cache to be in any particular state. But the sources of
groups must not fail, since the other features that a doomed one requires are resolved first.
-/

namespace FeatureGate.Resolver

open Store (Rows)
open Record (Chronological)
open Resolver.Action (Maintains Yields)

variable {resolver : Resolver} {start moment later : Moment} {feature : String} {context : Context}

/-- **Doomed features stay shut** from a moment on: their rows are as they were then, as far as
the clock never went back. The definitions are the same. -/
structure Shut (start moment : Moment) : Prop where
  /-- The definitions are the same. -/
  registry : moment.work.registry = start.work.registry
  /-- The record goes on. -/
  history : start.record.history <+: moment.record.history
  /-- The rows of doomed features are as they were. -/
  row {feature : String} (key : String) : Chronological moment.record.history →
    start.work.registry.Doomed start.record.history feature →
    moment.record.rows.get? feature key = start.record.rows.get? feature key

/-- **A feature was not doomed**, as it turned out by some moment. -/
def Undoomed (start : Moment) (feature : String) (moment : Moment) : Prop :=
  Chronological moment.record.history →
    ¬ start.work.registry.Doomed start.record.history feature

namespace Shut

theorem refl (start : Moment) : Shut start start :=
  ⟨rfl, List.prefix_refl _, fun _ _ _ => rfl⟩

/-- Rows may change later if they are not those of doomed features. -/
theorem extend (h : Shut start moment) (hprecedes : moment.Precedes later)
    (hrow : Chronological later.record.history → ∀ feature key,
      start.work.registry.Doomed start.record.history feature →
      later.record.rows.get? feature key = moment.record.rows.get? feature key) :
    Shut start later where
  registry := hprecedes.registry.trans h.registry
  history := h.history.trans hprecedes.history
  row {feature} key hclock hdoomed :=
    (hrow hclock feature key hdoomed).trans
      (h.row key (hclock.of_prefix hprecedes.history) hdoomed)

/-- What leaves the rows leaves doomed features shut. -/
theorem same (h : Shut start moment) (hprecedes : moment.Precedes later)
    (hrows : later.record.rows = moment.record.rows) : Shut start later :=
  h.extend hprecedes fun _ _ _ _ => by rw [hrows]

theorem tolerant (start : Moment) :
    Tolerant (Record.frail False) fun work known => Shut start ⟨work, known⟩ :=
  .of_same fun h hprecedes hrows _ => h.same hprecedes hrows

/-- **A gate that was passed** is not that of a doomed feature: the reading of the clock would
have been past the expiry, or one of the features required would not have been active. -/
theorem undoomed {definition : Definition}
    (hpassed : Passed (Shut start) (fun r _ => Undoomed start r) definition moment)
    (hdefinition : start.work.registry.get? feature = some definition) :
    Undoomed start feature moment := by
  intro hclock hdoomed
  obtain ⟨_, hget, hwhy⟩ := hdoomed.exists_definition
  obtain rfl := Option.some.inj (hdefinition.symm.trans hget)
  rcases hwhy with ⟨known, hknown, hexpired⟩ | ⟨r, hr, hdoomed⟩
  · obtain ⟨begun, now, hbegun, ⟨rest, hhistory, hnow⟩, hunexpired⟩ := hpassed.unexpired
    rw [hhistory] at hclock
    have hlater := hclock.before_eq_false (hbegun.history.subset hknown) hnow
    exact Bool.noConfusion (hunexpired.symm.trans (Definition.isExpiredAt_later hexpired hlater))
  · obtain ⟨_, -, hfound⟩ := hpassed.required r hr
    exact hfound hclock hdoomed

/-- **What is found out on the way** is that features are not doomed, and doomed ones stay
shut. -/
theorem passing (resolver : Resolver) (context : Context) (start : Moment) :
    Passing False (Shut start) (fun feature _ => Undoomed start feature) resolver context
      fun _ => True where
  tolerant := tolerant start
  required _ _ _ _ _ := trivial
  stable hprecedes h hclock := h (hclock.of_prefix hprecedes.history)
  opened {feature before result after later} _ h hpassed hopened := by
    have hprecedes : before.Precedes ⟨after, later⟩ := .of_opened hopened
    refine h.extend hprecedes fun hclock g k hdoomed => ?_
    rcases hopened.rows with hrows | ⟨definition, hget, _, -, -, hrows⟩
    · rw [hrows]
    · -- the row that is added is not one of a doomed feature
      rw [h.registry] at hget hpassed
      have hopen := undoomed (hpassed definition hget) hget
        (hclock.of_prefix hprecedes.history)
      rw [hrows, Rows.get?_insert, if_neg]
      rintro ⟨rfl, -⟩
      exact hopen hdoomed
  found {feature value before passing after depth} _ h _ _ hafter hpassed _ := by
    intro hclock hdoomed
    obtain ⟨definition, hget, -⟩ := hdoomed.exists_definition
    exact undoomed (hpassed definition (h.registry ▸ hget)) hget
      (hclock.of_prefix hafter.history) hdoomed

/-- **A doomed feature comes out inactive.** -/
theorem yields_resolve_of_doomed {work : Work} {known : Record}
    (hdoomed : work.registry.Doomed known.history feature) :
    (resolver.resolve feature context).Yields (Record.frail False) work known
      fun result _ later => Chronological later.history → result = .ok .inactive := by
  refine ((passing resolver context ⟨work, known⟩).resolve trivial (.refl _)).mono
    fun result after later hturnout hclock => ?_
  cases result with
  | error error => exact (hturnout.failure rfl).elim
  | ok value =>
    by_cases hvalue : value = .inactive
    · rw [hvalue]
    · exact absurd hdoomed (hturnout.found rfl hvalue hclock)

/-! ## Tasks -/

/-- **Reading rows** leaves doomed features shut. -/
theorem askStore (start : Moment) {call : Store.Call}
    (hcall : ∀ rows : Rows, (rows.answer call).2 = rows) :
    (askStore call).Maintains (Record.frail False) fun work known => Shut start ⟨work, known⟩ := by
  refine fun work known h => .askStore trivial fun reply later hgives => ?_
  have hrows : later.rows = known.rows :=
    hgives.2.elim (fun hmemory => hmemory.2.trans (hcall _)) fun hfailed => hfailed.2.2
  exact h.same (.of_rows_eq hrows (Record.history_of_gives hgives)) hrows

theorem modifyCache (start : Moment) (change : Cache → Cache) :
    (modifyCache change).Maintains (Record.frail False) fun work known =>
      Shut start ⟨work, known⟩ :=
  .modify fun _ _ h => ⟨h.registry, h.history, h.row⟩

/-- **Everything that tasks do which neither write nor define** leaves doomed features shut:
what is loaded is kept, or resolved. -/
theorem asking (resolver : Resolver) (start : Moment) :
    Maintains.Asking (Record.frail False) (fun work known => Shut start ⟨work, known⟩)
      resolver where
  clock := .aside (tolerant start) .clock trivial
  resolve feature context work known h :=
    ((passing resolver context start).resolve trivial h).mono fun _ _ _ hturnout => hturnout.inv
  loadWith skipCached features contexts := by
    refine .loadWith fun work known h pairs _ => ?_
    refine Maintains.bind (askStore start fun _ => rfl) (fun stored => .forM fun entry _ => ?_)
      work known h
    exact .settle (fun _ _ => modifyCache start _) (modifyCache start _) fun work known h =>
      ((passing resolver entry.1.2.1 start).resolve trivial h).mono fun _ _ _ hturnout =>
        hturnout.inv
  stored := askStore start fun _ => rfl
  rescope _ h := ⟨h.registry, h.history, h.row⟩
  flush h := ⟨h.registry, h.history, h.row⟩

end Shut

end FeatureGate.Resolver
