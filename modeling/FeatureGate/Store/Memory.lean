import Std.Data.ExtTreeMap.Lemmas
import Std.Data.ExtTreeSet.Lemmas
import FeatureGate.Store.Call

/-!
# The store in memory

Rows are a finite map from addresses – a feature and a context key – to
payloads. Every view of the store is read off this one map: the row of an
address, the number of rows of a feature, and the names of the features that
have rows, in increasing order.
-/

namespace FeatureGate.Store

/-- **The address of a row.** -/
structure Address where
  /-- The feature. -/
  feature : String
  /-- The context key. -/
  key : String
deriving DecidableEq, Repr

namespace Address

/-- Addresses are ordered by feature, then by key. -/
def order : Address → Address → Ordering :=
  compareLex (compareOn Address.feature) (compareOn Address.key)

instance : Ord Address := ⟨order⟩

instance instTransOrd : Std.TransOrd Address :=
  inferInstanceAs (Std.TransCmp
    (compareLex (compareOn Address.feature) (compareOn Address.key)))

instance instLawfulEqOrd : Std.LawfulEqOrd Address where
  eq_of_compare {a b} h := by
    obtain ⟨hf, hk⟩ := Ordering.then_eq_eq.mp h
    cases a; cases b
    simp_all [compareOn]

end Address

/-- **The rows of a store.** -/
abbrev Rows := Std.ExtTreeMap Address Payload

namespace Rows

/-- The payload of a row, if the row exists. -/
def get? (rows : Rows) (feature key : String) : Option Payload :=
  rows[Address.mk feature key]?

/-- Overwrite every row of a feature. -/
def setForAll (rows : Rows) (feature : String) (value : Payload) : Rows :=
  rows.map fun address old => if address.feature = feature then value else old

/-- Remove every row of the features listed, or every row. -/
def purge (rows : Rows) : Option (List String) → Rows
  | none => ∅
  | some features => rows.filter fun address _ => !features.contains address.feature

/-- The names of the features that have rows, in increasing order. -/
def features (rows : Rows) : List String :=
  (Std.ExtTreeSet.ofList (rows.keys.map Address.feature)).toList

/-- The number of rows of a feature. -/
def countFor (rows : Rows) (feature : String) : Nat :=
  (rows.keys.filter fun address => address.feature = feature).length

end Rows

/-- What the store in memory answers to a call, and the rows after it. -/
def Rows.answer (rows : Rows) : (call : Call) → call.Reply × Rows
  | .get feature key => (.ok (rows.get? feature key), rows)
  | .getMany pairs => (.ok (pairs.map fun (feature, key) => rows.get? feature key), rows)
  | .insert feature key value =>
    if (rows.get? feature key).isSome then (.error (.conflict feature key), rows)
    else (.ok (), rows.insert ⟨feature, key⟩ value)
  | .set feature key value => (.ok (), rows.insert ⟨feature, key⟩ value)
  | .setForAll feature value => (.ok (), rows.setForAll feature value)
  | .delete feature key => (.ok (), rows.erase ⟨feature, key⟩)
  | .purge features => (.ok (), rows.purge features)
  | .listStored => (.ok rows.features, rows)

/-- **The store in memory.** -/
def memory : Store (StateM Rows) where
  kind := "memory"
  call call := fun rows => rows.answer call

end FeatureGate.Store
