import FeatureGate.Proofs.Tables
import FeatureGate.Registry

/-!
# What a registry lists

The definitions of a registry, and those of them that some moment of time singles
out, are listed in increasing order of name. What a list is in order of is the name
under which a definition is registered; that this is the name of the definition
itself holds of all registries that come about (`Registry.Arises`).
-/

namespace FeatureGate.Registry

variable {registry after : Registry} {name : String} {definition : Definition} {now : Instant}

theorem mem_toList_definitions :
    (name, definition) ∈ registry.definitions.toList ↔ registry.get? name = some definition :=
  Std.ExtTreeMap.mem_toList_iff_getElem?_eq_some

/-- The names under which definitions are registered increase. -/
theorem pairwise_toList_definitions (registry : Registry) :
    registry.definitions.toList.Pairwise (·.1 < ·.1) := by
  refine Std.ExtTreeMap.ordered_keys_toList.imp fun hlt => ?_
  exact compareOfLessAndEq_eq_lt.mp hlt

theorem mem_defined :
    name ∈ registry.defined ↔ ∃ definition, registry.get? name = some definition := by
  unfold defined get?
  rw [Std.ExtTreeMap.mem_keys, Std.ExtTreeMap.mem_iff_isSome_getElem?, Option.isSome_iff_exists]

/-! ## Registering -/

/-- What is registered was found fit to be. -/
theorem validate_of_define (h : registry.define definition = .ok after) :
    definition.validate = .ok () := by
  unfold define at h
  cases hvalidate : definition.validate with
  | ok _ => rfl
  | error error =>
    rw [hvalidate] at h
    cases h

/-- **A registry that comes about**: by registering definitions and forgetting some. -/
inductive Arises : Registry → Prop where
  /-- No feature is defined to begin with. -/
  | empty : Arises .empty
  /-- A definition is registered, if it is fit to be. -/
  | define {registry after : Registry} {definition : Definition} :
    Arises registry → registry.define definition = .ok after → Arises after
  /-- A definition is forgotten. -/
  | remove {registry : Registry} (name : String) : Arises registry → Arises (registry.remove name)

/-- **Definitions are registered under their own names.** -/
theorem Arises.name_eq (h : registry.Arises) (hget : registry.get? name = some definition) :
    definition.name = name := by
  induction h with
  | empty => rw [get?_empty] at hget; cases hget
  | define _ hdefine ih =>
    rw [get?_define hdefine] at hget
    split at hget
    · rename_i hname
      exact Option.some.inj hget ▸ hname
    · exact ih hget
  | remove removed _ ih =>
    rw [get?_remove] at hget
    split at hget
    · cases hget
    · exact ih hget

/-! ## What a moment of time singles out -/

/-- An expired feature is one with a definition that has expired. -/
theorem mem_expired {feature : String} :
    feature ∈ registry.expired now
      ↔ (registry.get? feature).any (·.isExpiredAt now) = true := by
  simp only [expired, get?, List.mem_map, List.mem_filter,
    Std.ExtTreeMap.mem_toList_iff_getElem?_eq_some, Prod.exists, exists_and_right, exists_eq_right]
  cases registry.definitions[feature]? <;> simp

theorem mem_expired_iff_exists {feature : String} :
    feature ∈ registry.expired now
      ↔ ∃ definition, registry.get? feature = some definition ∧ definition.isExpiredAt now := by
  rw [mem_expired]
  cases registry.get? feature <;> simp

/-- **The features that have expired** are told in increasing order of name. -/
theorem pairwise_expired (registry : Registry) (now : Instant) :
    (registry.expired now).Pairwise (· < ·) := by
  unfold expired
  rw [List.pairwise_map]
  exact (pairwise_toList_definitions registry).filter _

/-- **The definitions that expire soon** are those registered that do. -/
theorem mem_expiringWithin {days : Int} :
    definition ∈ registry.expiringWithin now days
      ↔ (∃ name, registry.get? name = some definition) ∧ definition.isExpiringSoonAt now days := by
  unfold expiringWithin
  rw [List.mem_filter, Tables.values_eq_map_toList, List.mem_map]
  refine and_congr_left' ⟨?_, ?_⟩
  · rintro ⟨⟨name, definition⟩, hmem, rfl⟩
    exact ⟨name, mem_toList_definitions.mp hmem⟩
  · rintro ⟨name, hget⟩
    exact ⟨(name, definition), mem_toList_definitions.mpr hget, rfl⟩

/-- They are told in increasing order of name. -/
theorem Arises.pairwise_expiringWithin (h : registry.Arises) (now : Instant) (days : Int) :
    (registry.expiringWithin now days).Pairwise (·.name < ·.name) := by
  unfold expiringWithin
  rw [Tables.values_eq_map_toList]
  refine List.Pairwise.filter _ (List.pairwise_map.mpr ?_)
  refine (pairwise_toList_definitions registry).imp_of_mem fun ha hb hlt => ?_
  rwa [h.name_eq (mem_toList_definitions.mp ha), h.name_eq (mem_toList_definitions.mp hb)]

end FeatureGate.Registry
