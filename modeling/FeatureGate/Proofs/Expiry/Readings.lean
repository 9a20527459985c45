import FeatureGate.Proofs.Interference
import FeatureGate.Proofs.Resolution.Footprint

/-!
# What the clock was read as

That a feature has expired is known from a reading of the clock. Readings are on record, and
as long as the clock never went back (`Record.Chronological`), what was past the expiry of a
definition once is so ever after.

A feature that needs an expired one cannot be open either. Such features are *doomed*
(`Registry.Doomed`): by the definitions as they are, and by the readings made so far.
-/

namespace FeatureGate

/-- What is past something stays so, until the clock goes back. -/
theorem Instant.before_of_before {a b c : Instant} (h : a.before b) (hlater : c.before b = false) :
    a.before c := by
  simp only [before, Bool.or_eq_true, Bool.or_eq_false_iff, Bool.and_eq_true, Bool.and_eq_false_iff,
    decide_eq_true_eq, decide_eq_false_iff_not, beq_iff_eq, beq_eq_false_iff_ne] at h hlater ⊢
  omega

/-- **Expiry is final** as far as one definition goes. -/
theorem Definition.isExpiredAt_later {definition : Definition} {known now : Instant}
    (h : definition.isExpiredAt known) (hlater : now.before known = false) :
    definition.isExpiredAt now := by
  unfold isExpiredAt at h ⊢
  cases hexpiration : definition.expiration with
  | none => simp [hexpiration] at h
  | some expiration =>
    rw [hexpiration] at h
    exact Instant.before_of_before h hlater

namespace Record

/-- What the clock was read as, if it was. -/
def reading? : Exchange Resolver.interface → Option Instant
  | ⟨.clock, now⟩ => some now
  | _ => none

/-- **The readings of the clock**, oldest first. -/
def readings (history : List (Exchange Resolver.interface)) : List Instant :=
  history.filterMap reading?

/-- **The clock never went back.** -/
def Chronological (history : List (Exchange Resolver.interface)) : Prop :=
  (readings history).Pairwise fun earlier later => later.before earlier = false

instance (history : List (Exchange Resolver.interface)) : Decidable (Chronological history) :=
  inferInstanceAs (Decidable ((readings history).Pairwise _))

variable {earlier later history rest : List (Exchange Resolver.interface)} {known now : Instant}

theorem mem_readings : now ∈ readings history ↔ ⟨.clock, now⟩ ∈ history := by
  unfold readings
  rw [List.mem_filterMap]
  constructor
  · rintro ⟨⟨call, reply⟩, hmem, hreading⟩
    cases call with
    | clock =>
      obtain rfl := Option.some.inj hreading
      exact hmem
    | _ => cases hreading
  · exact fun hmem => ⟨_, hmem, rfl⟩

namespace Chronological

theorem of_prefix (h : Chronological later) (hearlier : earlier <+: later) :
    Chronological earlier :=
  List.Pairwise.sublist (hearlier.sublist.filterMap reading?) h

/-- **No later reading is before an earlier one.** -/
theorem before_eq_false (h : Chronological (history ++ rest)) (hknown : ⟨.clock, known⟩ ∈ history)
    (hnow : ⟨.clock, now⟩ ∈ rest) : now.before known = false := by
  unfold Chronological readings at h
  rw [List.filterMap_append, List.pairwise_append] at h
  exact h.2.2 known (mem_readings.mpr hknown) now (mem_readings.mpr hnow)

end Chronological

end Record

/-! ## Doomed features -/

namespace Registry

variable {registry registry' : Registry} {feature : String}
  {earlier later history : List (Exchange Resolver.interface)}

/-- **A feature has been seen to have expired**: a reading of the clock is on record that is past
the expiry of its definition. -/
def SeenExpired (registry : Registry) (history : List (Exchange Resolver.interface))
    (feature : String) : Prop :=
  ∃ definition now, registry.get? feature = some definition ∧ ⟨.clock, now⟩ ∈ history
    ∧ definition.isExpiredAt now

/-- **A feature is doomed**: it needs one that has been seen to have expired. -/
def Doomed (registry : Registry) (history : List (Exchange Resolver.interface))
    (feature : String) : Prop :=
  ∃ expired, registry.Needs feature expired ∧ registry.SeenExpired history expired

/-- What has been seen to have expired goes on to be so, as long as it is not redefined. -/
theorem SeenExpired.onward (h : registry.SeenExpired earlier feature)
    (hdefinition : registry'.get? feature = registry.get? feature) (hhistory : earlier <+: later) :
    registry'.SeenExpired later feature := by
  obtain ⟨definition, now, hget, hnow, hexpired⟩ := h
  exact ⟨definition, now, hdefinition.trans hget, hhistory.subset hnow, hexpired⟩

theorem SeenExpired.doomed (h : registry.SeenExpired history feature) :
    registry.Doomed history feature :=
  ⟨feature, .refl, h⟩

/-- **Why a feature is doomed**: it has expired itself, or requires one that is doomed. -/
theorem Doomed.exists_definition (h : registry.Doomed history feature) :
    ∃ definition, registry.get? feature = some definition
      ∧ ((∃ now, ⟨.clock, now⟩ ∈ history ∧ definition.isExpiredAt now)
        ∨ ∃ r ∈ definition.required, registry.Doomed history r) := by
  obtain ⟨expired, hneeds, hexpired⟩ := h
  rcases Relation.ReflTransGen.cases_head hneeds with rfl | ⟨r, ⟨definition, hget, hr⟩, hneeds⟩
  · obtain ⟨definition, now, hget, hnow, hexpired⟩ := hexpired
    exact ⟨definition, hget, .inl ⟨now, hnow, hexpired⟩⟩
  · exact ⟨definition, hget, .inr ⟨r, hr, expired, hneeds, hexpired⟩⟩

end Registry

end FeatureGate
