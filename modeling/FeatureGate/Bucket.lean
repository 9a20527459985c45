import FeatureGate.Hash.Sha256
import FeatureGate.Variants

/-!
# Buckets

Every pair of a feature and a context key falls into one of a hundred buckets,
by a hash of both. Rollouts and variant splits read nothing but the bucket, so
a context keeps its side of a rollout as long as the feature and the key stay
the same, and a growing percentage only ever adds contexts.
-/

namespace FeatureGate.Bucket

/-- **The hash of a feature and a context key**: the first word of the digest
of `feature|key`. -/
def hash (feature key : String) : UInt32 :=
  (Sha256.digest (feature ++ "|" ++ key).toUTF8.toList).a

/-- **The bucket of a feature and a context key.** -/
def of (feature key : String) : UInt8 :=
  (hash feature key % 100).toUInt8

/-- Whether a context is inside a percentage rollout. -/
def inRollout (feature key : String) (percentage : UInt8) : Bool :=
  of feature key < percentage

/-- The variant of a context. -/
def variant (feature key : String) (table : VariantTable) : String :=
  table.select (of feature key)

/-- There are a hundred buckets. -/
theorem of_lt (feature key : String) : (of feature key).toNat < 100 := by
  have h : (hash feature key % 100).toNat < 100 := by
    rw [UInt32.toNat_mod]
    exact Nat.mod_lt _ (by decide)
  simp only [of, UInt32.toNat_toUInt8]
  omega

end FeatureGate.Bucket
