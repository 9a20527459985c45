import Mathlib.Data.List.Nodup
import FeatureGate.Proofs.Context.Separation

/-!
# Kinds stay apart under aliases

An alias is the name that an entity kind is stored under. If two kinds were
stored under one name, an entity of the one would read what was stored for an
entity of the other – and, the groups being entities too, could pass for a
group.

A map of aliases that is accepted gives no two kinds the same alias. A kind
without one is stored under its own name, and nothing keeps that name from being
the alias of another kind: this is what aliases are for, since a kind that is
renamed goes on under the name it had. So of two kinds, one may *take the name*
of the other (`Aliases.TakesNameOf`). Any other two kinds are told apart by every
key, whatever the scopes are (`Aliases.entities_apart`).
-/

namespace FeatureGate.Aliases

/-! ## Accepted maps -/

/-- Without a fault, the aliases of a list are all different, and none of them
has an owner before it. -/
theorem nodup_of_firstFault_eq_none {owners entries : List (String × String)}
    (h : firstFault owners entries = .none) :
    (entries.map (·.2)).Nodup ∧ ∀ entry ∈ entries, entry.2 ∉ owners.map (·.1) := by
  induction entries generalizing owners with
  | nil => simp
  | cons entry rest ih =>
    obtain ⟨kind, stored⟩ := entry
    rw [firstFault] at h
    split at h
    · cases h
    · split at h
      · cases h
      · rename_i hfind
        have hnew : stored ∉ owners.map (·.1) := by
          rw [List.find?_eq_none] at hfind
          intro hmem
          obtain ⟨owner, howner, hsame⟩ := List.mem_map.mp hmem
          exact hfind owner howner (beq_iff_eq.mpr hsame)
        obtain ⟨hnodup, hrest⟩ := ih h
        -- what comes later differs from this alias, which owns it from now on
        refine ⟨List.nodup_cons.mpr ⟨fun hmem => ?_, hnodup⟩, fun entry hentry => ?_⟩
        · obtain ⟨later, hlater, hsame⟩ := List.mem_map.mp hmem
          exact hrest later hlater (hsame ▸ List.mem_cons_self)
        · rcases List.mem_cons.mp hentry with rfl | hentry
          · exact hnew
          · exact fun hmem => hrest entry hentry (List.mem_cons_of_mem _ hmem)

/-- A map that is accepted is kept as it is. -/
theorem stored_of_ofMap {stored : Std.ExtTreeMap String String} {aliases : Aliases}
    (h : ofMap stored = .ok aliases) : aliases.stored = stored := by
  unfold ofMap at h
  split at h
  · cases h
  · cases h
    rfl

/-- **An accepted map gives no two kinds the same alias.** -/
theorem eq_of_ofMap {stored : Std.ExtTreeMap String String} {aliases : Aliases}
    (h : ofMap stored = .ok aliases) {k l name : String} (hk : aliases.stored[k]? = some name)
    (hl : aliases.stored[l]? = some name) : k = l := by
  rw [stored_of_ofMap h] at hk hl
  unfold ofMap at h
  split at h
  · cases h
  · rename_i hfault
    have hmem : ∀ kind, stored[kind]? = some name → (kind, name) ∈ stored.toList :=
      fun kind => Std.ExtTreeMap.mem_toList_iff_getElem?_eq_some.mpr
    exact congrArg Prod.fst (List.inj_on_of_nodup_map
      (nodup_of_firstFault_eq_none hfault).1 (hmem k hk) (hmem l hl) rfl)

/-! ## Stored names -/

/-- **A kind takes the name of another**: the other is its alias, and has none
itself. -/
def TakesNameOf (aliases : Aliases) (kind other : String) : Prop :=
  aliases.stored[kind]? = some other ∧ aliases.stored[other]? = .none

/-- Two kinds are stored under different names, unless one takes the name of the
other. -/
theorem storedKind_ne {stored : Std.ExtTreeMap String String} {aliases : Aliases}
    (h : ofMap stored = .ok aliases) {k l : String} (hne : k ≠ l)
    (hkl : ¬ aliases.TakesNameOf k l) (hlk : ¬ aliases.TakesNameOf l k) :
    aliases.storedKind k ≠ aliases.storedKind l := by
  unfold storedKind
  intro hsame
  cases hk : aliases.stored[k]? with
  | none =>
    cases hl : aliases.stored[l]? with
    | none => exact hne (by simpa [hk, hl] using hsame)
    | some name =>
      obtain rfl : k = name := by simpa [hk, hl] using hsame
      exact hlk ⟨hl, hk⟩
  | some name =>
    cases hl : aliases.stored[l]? with
    | none =>
      obtain rfl : name = l := by simpa [hk, hl] using hsame
      exact hkl ⟨hk, hl⟩
    | some other =>
      obtain rfl : name = other := by simpa [hk, hl] using hsame
      exact hne (eq_of_ofMap h hk hl)

/-! ## Keys -/

/-- A key tells the identity part, whatever the scopes are made of. -/
theorem identityKey_eq_of_key_eq (aliases : Aliases) {c d : Context} {a b : Option Scope}
    (h : aliases.key c a = aliases.key d b) :
    aliases.identityKey c.identity = aliases.identityKey d.identity := by
  -- the scope begins with `@`, which is not in the identity part
  have hbefore : ∀ (context : Context) (ambient : Option Scope),
      (aliases.key context ambient).toList.takeWhile (· != '@')
        = (aliases.identityKey context.identity).toList := by
    intro context ambient
    have hall : ∀ c ∈ (aliases.identityKey context.identity).toList, (c != '@') = true := by
      intro c hc
      rw [bne_iff_ne]
      rintro rfl
      exact aliases.at_notMem_identityKey _ hc
    rw [toList_key, List.takeWhile_append_of_pos hall]
    cases context.scope.or ambient with
    | none => simp
    | some scope => simp [Scope.toList_suffix]
  rw [← String.toList_inj, ← hbefore c a, ← hbefore d b, h]

/-- The identity part of an entity tells the name its kind is stored under. -/
theorem storedKind_eq_of_identityKey_eq (aliases : Aliases) {k l x y : String}
    (h : aliases.identityKey (.entity k x) = aliases.identityKey (.entity l y)) :
    aliases.storedKind k = aliases.storedKind l := by
  have hbar : ∀ part, '|' ∉ (Key.escape part).toList :=
    Key.delimiter_notMem_escape (by decide)
  have hentity : ∀ kind key, (aliases.identityKey (.entity kind key)).toList
      = (Key.escape (aliases.storedKind kind)).toList ++ '|' :: (Key.escape key).toList :=
    fun kind key => by simp [identityKey]
  have hlist := congrArg String.toList h
  rw [hentity, hentity] at hlist
  exact Key.escape_injective
    (String.toList_inj.mp (Json.append_cons_inj (hbar _) (hbar _) hlist).1)

/-- **Kinds stay apart under aliases that are accepted**, unless one takes the name
of the other: they are stored under different names, and no entity of the one
shares a key with an entity of the other, in any scopes. -/
theorem entities_apart {stored : Std.ExtTreeMap String String} {aliases : Aliases}
    (h : ofMap stored = .ok aliases) {k l : String} (hne : k ≠ l)
    (hkl : ¬ aliases.TakesNameOf k l) (hlk : ¬ aliases.TakesNameOf l k) :
    aliases.storedKind k ≠ aliases.storedKind l
      ∧ ∀ (x y : String) (s t a b : Option Scope),
        aliases.key ⟨.entity k x, s⟩ a ≠ aliases.key ⟨.entity l y, t⟩ b := by
  have hstored := storedKind_ne h hne hkl hlk
  refine ⟨hstored, fun x y s t a b hkey => hstored ?_⟩
  exact aliases.storedKind_eq_of_identityKey_eq (aliases.identityKey_eq_of_key_eq hkey)

/-- Two kinds that are renamed one after the other stay apart: the name of the
second is the alias of the first, but the second has an alias of its own. -/
theorem entities_apart_renamed :
    let stored := ((∅ : Std.ExtTreeMap String String).insert "Account" "User").insert
      "User" "Person"
    ofMap stored = .ok ⟨stored⟩
      ∧ (Aliases.mk stored).storedKind "Account" ≠ (Aliases.mk stored).storedKind "User"
      ∧ (Aliases.mk stored).key (.entity "Account" "9") .none
        ≠ (Aliases.mk stored).key (.entity "User" "9") .none := by
  intro stored
  have haccepted : ofMap stored = .ok ⟨stored⟩ := by
    rw [ofMap, show firstFault [] stored.toList = .none by decide +kernel]
  have haccount : stored["Account"]? = some "User" := by decide +kernel
  have huser : stored["User"]? = some "Person" := by decide +kernel
  obtain ⟨hstored, hkeys⟩ := entities_apart haccepted (k := "Account") (l := "User") (by decide)
    (fun h => nomatch huser.symm.trans h.2) (fun h => absurd (huser.symm.trans h.1) (by decide))
  exact ⟨haccepted, hstored, hkeys "9" "9" .none .none .none .none⟩

/-- **An accepted map lets a kind take the name of another.** The kind `user` has
no alias, and is the alias of another kind: entities of both share their keys. -/
theorem kinds_merged_by_alias :
    let stored := (∅ : Std.ExtTreeMap String String).insert "app::models::User" "user"
    ofMap stored = .ok ⟨stored⟩
      ∧ "app::models::User" ≠ "user"
      ∧ (Aliases.mk stored).storedKind "app::models::User" = (Aliases.mk stored).storedKind "user"
      ∧ (Aliases.mk stored).key (.entity "app::models::User" "9") .none
        = (Aliases.mk stored).key (.entity "user" "9") .none := by
  intro stored
  have haccepted : ofMap stored = .ok ⟨stored⟩ := by
    rw [ofMap, show firstFault [] stored.toList = .none by decide +kernel]
  exact ⟨haccepted, by decide, by decide +kernel, by decide +kernel⟩

end FeatureGate.Aliases
