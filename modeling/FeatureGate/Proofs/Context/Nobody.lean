import FeatureGate.Proofs.Context.Separation

/-!
# The key of nobody

The context of nobody in particular has a key too, for features are resolved
and stored for it like for any other context. It is a text of ordinary
characters, none of which is a delimiter. So it is not out of reach: whoever may
choose an identifier may choose that text, and escaping leaves it as it is.

Nothing else is taken for nobody. An entity is told by the delimiter in its key,
whatever its kind is stored as, and the scope that counts is told by the rest of
the key (`Aliases.key_eq_nobody_iff`).
-/

namespace FeatureGate

/-- **An identifier that reads like nobody**: a plain or self-made one that is
spelled like the key of nobody. -/
def Identity.ReadsLikeNobody (identity : Identity) : Prop :=
  identity = .scalar Key.null ∨ identity = .custom Key.null

namespace Aliases

variable (aliases : Aliases)

/-- There is nothing to escape in the key of nobody. -/
theorem escape_eq_null_iff {id : String} : Key.escape id = Key.null ↔ id = Key.null := by
  have hnull : Key.escape Key.null = Key.null := by decide
  constructor
  · intro h
    exact Key.escape_injective (h.trans hnull.symm)
  · rintro rfl
    exact hnull

/-- The key of an entity is told by the delimiter between kind and key. -/
theorem identityKey_entity_ne_null (kind key : String) :
    aliases.identityKey (.entity kind key) ≠ Key.null := by
  intro h
  have hmem : '|' ∈ (aliases.identityKey (.entity kind key)).toList := by
    simp [identityKey]
  rw [h] at hmem
  exact absurd hmem (by decide)

/-- Only nobody, and what reads like nobody, has the identity part of nobody. -/
theorem identityKey_eq_null_iff (identity : Identity) :
    aliases.identityKey identity = Key.null ↔ identity = .null ∨ identity.ReadsLikeNobody := by
  cases identity with
  | null => simp [identityKey]
  | scalar id =>
    rw [show aliases.identityKey (.scalar id) = Key.escape id from rfl, escape_eq_null_iff]
    simp [Identity.ReadsLikeNobody]
  | entity kind key =>
    simpa [Identity.ReadsLikeNobody] using aliases.identityKey_entity_ne_null kind key
  | custom id =>
    rw [show aliases.identityKey (.custom id) = Key.escape id from rfl, escape_eq_null_iff]
    simp [Identity.ReadsLikeNobody]

/-- Under the same scope, keys are the same if their identity parts are. -/
theorem key_eq_key_iff_of_scope_eq {c d : Context} {a b : Option Scope}
    (hscope : c.scope.or a = d.scope.or b) :
    aliases.key c a = aliases.key d b
      ↔ aliases.identityKey c.identity = aliases.identityKey d.identity := by
  rw [← String.toList_inj, ← String.toList_inj, toList_key, toList_key, hscope]
  exact List.append_left_inj _

/-- **Who has the key of nobody**: under any scope, which may be its own or the
ambient one, a context that stands for somebody has the key of nobody exactly if its
identifier reads like nobody. An entity never has it, under any aliases. -/
theorem key_eq_nobody_iff {c nobody : Context} (hc : c.identity ≠ .null)
    (hnobody : nobody.identity = .null) {a b : Option Scope}
    (hscope : c.scope.or a = nobody.scope.or b) :
    aliases.key c a = aliases.key nobody b ↔ c.identity.ReadsLikeNobody := by
  rw [aliases.key_eq_key_iff_of_scope_eq hscope, hnobody,
    show aliases.identityKey .null = Key.null from rfl, identityKey_eq_null_iff]
  exact or_iff_right hc

/-- An entity is not taken for nobody, though its kind is stored under the name of
nobody and its own key is empty. -/
theorem key_eq_nobody_iff_entity :
    let aliases : Aliases := ⟨(∅ : Std.ExtTreeMap String String).insert "User" Key.null⟩
    let tenant := (Scope.ofKind "tenant").constrain "id" (.string "1")
    aliases.storedKind "User" = Key.null
      ∧ aliases.key ((Context.entity "User" "").inScope tenant) .none
        ≠ aliases.key .null (some tenant) := by
  intro aliases tenant
  have hkey : aliases.key ((Context.entity "User" "").inScope tenant) .none
        = aliases.key .null (some tenant)
      ↔ ((Context.entity "User" "").inScope tenant).identity.ReadsLikeNobody :=
    aliases.key_eq_nobody_iff (by decide) rfl rfl
  refine ⟨by decide +kernel, ?_⟩
  rw [Ne, hkey]
  rintro (h | h) <;> cases h

/-- **Nobody's key can be chosen.** A text from outside is a context of its own, and
so is a self-made identifier, but the key is that of nobody if they are spelled like
it. -/
theorem nobody_impersonated :
    Context.ofJson (.string "__flagpole_null__") = .ok (.scalar "__flagpole_null__")
      ∧ Context.ofIdentifier "__flagpole_null__" = .ok ⟨.custom "__flagpole_null__", .none⟩
      ∧ (Context.scalar "__flagpole_null__").identity ≠ Context.null.identity
      ∧ none.key (.scalar "__flagpole_null__") .none = none.key .null .none
      ∧ none.key ⟨.custom "__flagpole_null__", .none⟩ .none = none.key .null .none := by
  exact ⟨rfl, rfl, by decide, by decide +kernel, by decide +kernel⟩

end Aliases

end FeatureGate
