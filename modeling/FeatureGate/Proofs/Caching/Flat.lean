import Mathlib.Data.List.Nodup
import FeatureGate.Cache
import FeatureGate.Proofs.Store.Rows
import FeatureGate.Proofs.Tables

/-!
# The cache as a flat map

The cache keeps its entries in two levels, the entries of a feature in a map of their own,
so that all of them can go at once. Nothing of this shows: it answers as one map from pairs
of a feature and a key would (`Cache.FlattensTo`), and what is done to it keeps it so.

Forgetting entries one by one leaves the map of a feature behind without any. It does not
count, since what is counted is the entries. They are listed feature by feature
(`Cache.addresses`), which names each of them once.
-/

namespace FeatureGate.Cache

open Store (Address)

variable (cache : Cache)

/-! ## Counting the entries -/

/-- The addresses of the entries, feature by feature. -/
def addresses : List Address :=
  cache.entries.toList.flatMap fun entry => entry.2.keys.map (Address.mk entry.1)

theorem mem_addresses (address : Address) :
    address ∈ cache.addresses ↔ cache.contains address.feature address.key := by
  unfold addresses contains get? ofFeature
  simp only [List.mem_flatMap, List.mem_map, Prod.exists,
    Std.ExtTreeMap.mem_toList_iff_getElem?_eq_some, Std.ExtTreeMap.mem_keys,
    Std.ExtTreeMap.mem_iff_isSome_getElem?]
  constructor
  · rintro ⟨feature, values, hvalues, key, hkey, rfl⟩
    rw [hvalues]
    exact hkey
  · intro hkept
    cases hvalues : cache.entries[address.feature]? with
    | none => simp [hvalues] at hkept
    | some values =>
      rw [hvalues] at hkept
      exact ⟨address.feature, values, hvalues, address.key, hkept, rfl⟩

/-- **No entry is listed twice**: addresses of one feature differ in the key, and no feature
has two maps. -/
theorem nodup_addresses : cache.addresses.Nodup := by
  refine List.nodup_flatMap.mpr ⟨fun entry _ => ?_, ?_⟩
  · refine List.Nodup.map (fun k k' hkey => ?_) Std.ExtTreeMap.nodup_keys
    exact congrArg Address.key hkey
  · refine Std.ExtTreeMap.distinct_keys_toList.imp fun hne => ?_
    intro address hleft hright
    obtain ⟨_, _, rfl⟩ := List.mem_map.mp hleft
    obtain ⟨_, _, hsame⟩ := List.mem_map.mp hright
    exact hne (Std.LawfulEqCmp.compare_eq_iff_eq.mpr (congrArg Address.feature hsame).symm)

theorem length_addresses : cache.addresses.length = cache.size := by
  rw [addresses, List.length_flatMap, size, Tables.values_eq_map_toList, List.map_map]
  simp only [List.length_map, Std.ExtTreeMap.length_keys]
  rfl

/-- **The size is the number of the entries.** -/
theorem encard_contains_eq_size :
    {address : Address | cache.contains address.feature address.key = true}.encard
      = cache.size := by
  rw [Tables.encard_eq_length cache.nodup_addresses cache.mem_addresses, length_addresses]

/-- A cache is empty if nothing is in it, whatever features it was filled with. -/
theorem isEmpty_iff : cache.isEmpty ↔ ∀ feature key, cache.contains feature key = false := by
  rw [isEmpty, beq_iff_eq, ← length_addresses, List.length_eq_zero_iff,
    List.eq_nil_iff_forall_not_mem]
  simp only [mem_addresses, Bool.not_eq_true]
  exact ⟨fun h feature key => h ⟨feature, key⟩, fun h address => h address.feature address.key⟩

/-! ## What is done to a cache -/

/-- **What is done to a cache.** -/
inductive Edit where
  /-- Keep a value. -/
  | put (feature key : String) (value : FeatureValue)
  /-- Forget one entry. -/
  | forget (feature key : String)
  /-- Forget every entry of a feature. -/
  | forgetFeature (feature : String)
  /-- Forget everything. -/
  | flush

/-- **One map** from addresses to values. -/
abbrev Flat := Std.ExtTreeMap Address FeatureValue

namespace Edit

/-- The cache after an edit. -/
def applyTo : Edit → Cache → Cache
  | .put feature key value, cache => cache.put feature key value
  | .forget feature key, cache => cache.forget feature key
  | .forgetFeature feature, cache => cache.forgetFeature feature
  | .flush, _ => .empty

/-- One map after an edit. -/
def applyToFlat : Edit → Flat → Flat
  | .put feature key value, flat => flat.insert ⟨feature, key⟩ value
  | .forget feature key, flat => flat.erase ⟨feature, key⟩
  | .forgetFeature feature, flat => flat.filter fun address _ => address.feature ≠ feature
  | .flush, _ => ∅

end Edit

/-- **A cache that answers as one map does.** -/
def FlattensTo (cache : Cache) (flat : Flat) : Prop :=
  ∀ feature key, cache.get? feature key = flat[Address.mk feature key]?

namespace FlattensTo

variable {cache : Cache} {flat : Flat}

theorem empty : Cache.empty.FlattensTo ∅ := by
  intro feature key
  rw [get?_empty, Std.ExtTreeMap.getElem?_empty]

/-- **An edit** changes a cache as it changes one map. -/
theorem edit (h : cache.FlattensTo flat) (edit : Edit) :
    (edit.applyTo cache).FlattensTo (edit.applyToFlat flat) := by
  intro feature key
  cases edit with
  | put f k value =>
    show (cache.put f k value).get? feature key = (flat.insert ⟨f, k⟩ value)[_]?
    rw [get?_put, Address.getElem?_insert, h feature key]
  | forget f k =>
    show (cache.forget f k).get? feature key = (flat.erase ⟨f, k⟩)[_]?
    rw [get?_forget, Address.getElem?_erase, h feature key]
  | forgetFeature f =>
    show (cache.forgetFeature f).get? feature key = (flat.filter _)[_]?
    rw [get?_forgetFeature, Std.ExtTreeMap.getElem?_filter', h feature key]
    by_cases hf : f = feature
    · rw [if_pos hf]
      cases flat[Address.mk feature key]? <;> simp [hf]
    · have hother : feature ≠ f := Ne.symm hf
      rw [if_neg hf]
      cases flat[Address.mk feature key]? <;> simp [Option.filter, hother]
  | flush => exact empty feature key

/-- **Edits**, one after another. -/
theorem edits (h : cache.FlattensTo flat) (edits : List Edit) :
    (edits.foldl (fun cache edit => edit.applyTo cache) cache).FlattensTo
      (edits.foldl (fun flat edit => edit.applyToFlat flat) flat) := by
  induction edits generalizing cache flat with
  | nil => exact h
  | cons edit rest ih => exact ih (h.edit edit)

/-- Both have as many entries. -/
theorem size_eq (h : cache.FlattensTo flat) : cache.size = flat.size := by
  have hperm : cache.addresses.Perm flat.keys := by
    refine (List.perm_ext_iff_of_nodup cache.nodup_addresses
      Std.ExtTreeMap.nodup_keys).mpr fun address => ?_
    rw [mem_addresses, contains, h, Std.ExtTreeMap.mem_keys,
      Std.ExtTreeMap.mem_iff_isSome_getElem?]
  rw [← length_addresses, hperm.length_eq, Std.ExtTreeMap.length_keys]

end FlattensTo

/-- **The cache is a flat map**, whatever was done to it.

* It answers as one map from pairs of a feature and a key does, to which the same was done.
* Its size is the number of the pairs that are in it, which is the size of that map.
* It is empty just if no pair is in it. -/
theorem behaves_as_flat_map (edits : List Edit) :
    let cache := edits.foldl (fun cache edit => edit.applyTo cache) empty
    let flat := edits.foldl (fun flat edit => edit.applyToFlat flat) (∅ : Flat)
    (∀ feature key, cache.get? feature key = flat[Address.mk feature key]?)
      ∧ {address : Address | cache.contains address.feature address.key = true}.encard
          = cache.size
      ∧ cache.size = flat.size
      ∧ (cache.isEmpty ↔ ∀ feature key, cache.contains feature key = false) := by
  intro cache flat
  have hflat : cache.FlattensTo flat := FlattensTo.empty.edits edits
  exact ⟨hflat, cache.encard_contains_eq_size, hflat.size_eq, cache.isEmpty_iff⟩

/-- A feature whose entries were all forgotten still has a map, which does not count. -/
example :
    let cache := (empty.put "dark" "ada" .inactive).forget "dark" "ada"
    cache.entries.contains "dark" = true ∧ cache.size = 0 ∧ cache.isEmpty = true := by
  decide +kernel

end FeatureGate.Cache
