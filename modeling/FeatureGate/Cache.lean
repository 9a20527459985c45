import Std.Data.ExtTreeMap.Lemmas
import FeatureGate.Value

/-!
# The resolution cache

A unit of work keeps the values it resolved, by feature and then by context
key, so that all entries of one feature go at once when the feature is written.
Forgetting a single entry may leave a feature without entries behind; sizes
count entries, not features.
-/

namespace FeatureGate

/-- **The values resolved so far**, by feature and context key. -/
structure Cache where
  /-- The entries of each feature. -/
  entries : Std.ExtTreeMap String (Std.ExtTreeMap String FeatureValue)

namespace Cache

/-- Nothing resolved yet. -/
def empty : Cache := ⟨∅⟩

instance : Inhabited Cache := ⟨empty⟩

/-- The entries of a feature. -/
def ofFeature (cache : Cache) (feature : String) : Std.ExtTreeMap String FeatureValue :=
  cache.entries[feature]?.getD ∅

/-- The value kept for a feature and a context key. -/
def get? (cache : Cache) (feature key : String) : Option FeatureValue :=
  (cache.ofFeature feature)[key]?

/-- Whether a value is kept. -/
def contains (cache : Cache) (feature key : String) : Bool :=
  (cache.get? feature key).isSome

/-- Keep a value. -/
def put (cache : Cache) (feature key : String) (value : FeatureValue) : Cache :=
  ⟨cache.entries.insert feature ((cache.ofFeature feature).insert key value)⟩

/-- Forget one entry. -/
def forget (cache : Cache) (feature key : String) : Cache :=
  match cache.entries[feature]? with
  | some values => ⟨cache.entries.insert feature (values.erase key)⟩
  | none => cache

/-- Forget every entry of a feature. -/
def forgetFeature (cache : Cache) (feature : String) : Cache :=
  ⟨cache.entries.erase feature⟩

/-- The number of entries. -/
def size (cache : Cache) : Nat :=
  (cache.entries.values.map (·.size)).foldr (· + ·) 0

/-- Whether there are no entries. -/
def isEmpty (cache : Cache) : Bool := cache.size == 0

/-! ## What each operation does to a look-up -/

@[simp]
theorem get?_empty (feature key : String) : empty.get? feature key = none := by
  simp [get?, ofFeature, empty]

theorem get?_put (cache : Cache) (f k : String) (value : FeatureValue)
    (feature key : String) :
    (cache.put f k value).get? feature key
      = if f = feature ∧ k = key then some value else cache.get? feature key := by
  by_cases hf : f = feature
  · subst hf
    by_cases hk : k = key <;>
      simp [get?, put, ofFeature, Std.ExtTreeMap.getElem?_insert, hk]
  · simp [get?, put, ofFeature, Std.ExtTreeMap.getElem?_insert, hf]

theorem get?_forget (cache : Cache) (f k feature key : String) :
    (cache.forget f k).get? feature key
      = if f = feature ∧ k = key then none else cache.get? feature key := by
  unfold forget
  cases h : cache.entries[f]? with
  | none =>
    by_cases hf : f = feature
    · subst hf
      by_cases hk : k = key <;> simp [get?, ofFeature, h]
    · simp [hf]
  | some values =>
    by_cases hf : f = feature
    · subst hf
      by_cases hk : k = key <;>
        simp [get?, ofFeature, h, Std.ExtTreeMap.getElem?_erase, hk]
    · simp [get?, ofFeature, Std.ExtTreeMap.getElem?_insert, hf]

theorem get?_forgetFeature (cache : Cache) (f feature key : String) :
    (cache.forgetFeature f).get? feature key
      = if f = feature then none else cache.get? feature key := by
  by_cases hf : f = feature <;>
    simp [get?, forgetFeature, ofFeature, Std.ExtTreeMap.getElem?_erase, hf]

end Cache

end FeatureGate
