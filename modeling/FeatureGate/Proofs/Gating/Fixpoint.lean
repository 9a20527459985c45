import Mathlib.Logic.Relation
import FeatureGate.Registry

/-!
# Gates as a least fixed point

A feature may require others, and those others again, in any graph whatever.
Which features are open is then a question about the whole graph, and the answer
is meant to be the least one: a feature is open if that can be shown from
features without requirements upwards, so that features that require each other
in a circle do not keep each other open.

`Gates` are the three things the answer depends on: the definitions, the time,
and for each feature the value it would come out with if its gate were open.
What a resolution makes of them is the subject of
`FeatureGate.Proofs.Gating.Resolution`; here are the fixed point itself
(`Gates.IsOpen`), and that a circle and everything above it stays closed.
-/

namespace FeatureGate

/-- **What decides which features are open.** -/
structure Gates where
  /-- The definitions. -/
  registry : Registry
  /-- What time it is. -/
  now : Instant
  /-- The value of each feature, if its gate is open. -/
  base : String → FeatureValue

namespace Gates

variable (gates : Gates) {f g r : String}

/-- One feature requires another. -/
def Requires (f r : String) : Prop :=
  ∃ definition, gates.registry.get? f = some definition ∧ r ∈ definition.required

/-- **The open features**: those that have not expired, require open features
only, and have an active value. Being inductive, it is the least such notion. -/
inductive IsOpen : String → Prop where
  /-- A feature is open if what it requires is. -/
  | intro {f : String}
      (unexpired : ∀ definition, gates.registry.get? f = some definition →
        definition.isExpiredAt gates.now = false)
      (met : ∀ r, gates.Requires f r → IsOpen r)
      (active : (gates.base f).isActive) : IsOpen f

/-- **The gate of a feature**: that it is not defined, or has not expired and
requires open features only. -/
def Holds (f : String) : Prop :=
  ∀ definition, gates.registry.get? f = some definition →
    definition.isExpiredAt gates.now = false ∧ ∀ r ∈ definition.required, gates.IsOpen r

/-- **What a feature comes out as**: its value, or inactive if its gate does not
hold. -/
def Answers (f : String) (value : FeatureValue) : Prop :=
  (gates.Holds f → value = gates.base f) ∧ (¬ gates.Holds f → value = .inactive)

variable {gates}

/-- **Being open is a fixed point.** -/
theorem isOpen_iff : gates.IsOpen f ↔ gates.Holds f ∧ (gates.base f).isActive := by
  constructor
  · rintro ⟨unexpired, met, active⟩
    exact ⟨fun d hd => ⟨unexpired d hd, fun r hr => met r ⟨d, hd, hr⟩⟩, active⟩
  · rintro ⟨hgate, active⟩
    refine .intro (fun d hd => (hgate d hd).1) ?_ active
    rintro r ⟨d, hd, hr⟩
    exact (hgate d hd).2 r hr

/-- **It is the least one**: it lies in everything that is closed under the same
rule. -/
theorem IsOpen.of_closed {P : String → Prop}
    (hclosed : ∀ f, (∀ definition, gates.registry.get? f = some definition →
        definition.isExpiredAt gates.now = false ∧ ∀ r ∈ definition.required, P r) →
      (gates.base f).isActive → P f)
    (h : gates.IsOpen f) : P f := by
  induction h with
  | intro unexpired met active ih =>
    exact hclosed _ (fun d hd => ⟨unexpired d hd, fun r hr => ih r ⟨d, hd, hr⟩⟩) active

theorem holds_of_get?_eq_none (h : gates.registry.get? f = none) : gates.Holds f := by
  intro d hd
  rw [h] at hd
  cases hd

theorem holds_iff {definition : Definition} (h : gates.registry.get? f = some definition) :
    gates.Holds f ↔ definition.isExpiredAt gates.now = false
      ∧ ∀ r ∈ definition.required, gates.IsOpen r := by
  constructor
  · exact fun hgate => hgate definition h
  · intro hgate d hd
    rw [h] at hd
    exact Option.some.inj hd ▸ hgate

/-- What comes out is active exactly for open features. -/
theorem Answers.isActive_iff {value : FeatureValue} (h : gates.Answers f value) :
    value.isActive ↔ gates.IsOpen f := by
  rw [isOpen_iff]
  by_cases hgate : gates.Holds f
  · simp [h.1 hgate, hgate]
  · simp [h.2 hgate, hgate, FeatureValue.isActive]

theorem Answers.unique {v w : FeatureValue} (hv : gates.Answers f v) (hw : gates.Answers f w) :
    v = w := by
  by_cases hgate : gates.Holds f
  · rw [hv.1 hgate, hw.1 hgate]
  · rw [hv.2 hgate, hw.2 hgate]

/-! ## Circles -/

theorem IsOpen.of_requires (h : gates.IsOpen f) (hr : gates.Requires f r) : gates.IsOpen r := by
  obtain ⟨_, met, _⟩ := h
  exact met r hr

theorem IsOpen.of_reflTransGen (h : gates.IsOpen f)
    (hr : Relation.ReflTransGen gates.Requires f g) : gates.IsOpen g := by
  induction hr with
  | refl => exact h
  | tail _ hstep ih => exact ih.of_requires hstep

/-- **A feature on a circle is not open**: whatever shows it open would have
shown a feature that it requires open before it. -/
theorem not_isOpen_of_cycle (h : Relation.TransGen gates.Requires f f) : ¬ gates.IsOpen f := by
  intro hopen
  induction hopen with
  | intro _ _ _ ih =>
    obtain ⟨r, hfr, hrf⟩ := Relation.TransGen.head'_iff.mp h
    exact ih r hfr (Relation.TransGen.tail' hrf hfr)

/-- **Neither does the gate hold of a feature on a circle or above one.** -/
theorem not_holds_of_cycle (hfg : Relation.ReflTransGen gates.Requires f g)
    (hg : Relation.TransGen gates.Requires g g) : ¬ gates.Holds f := by
  intro hgate
  have hmet : ∀ r, gates.Requires f r → gates.IsOpen r := by
    rintro r ⟨d, hd, hr⟩
    exact (hgate d hd).2 r hr
  rcases Relation.ReflTransGen.cases_head hfg with rfl | ⟨r, hfr, hrg⟩
  · obtain ⟨r, hfr, hrf⟩ := Relation.TransGen.head'_iff.mp hg
    exact not_isOpen_of_cycle (Relation.TransGen.tail' hrf hfr) (hmet r hfr)
  · exact not_isOpen_of_cycle hg ((hmet r hfr).of_reflTransGen hrg)

end Gates

end FeatureGate
