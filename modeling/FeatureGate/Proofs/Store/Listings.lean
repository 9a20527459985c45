import Mathlib.Algebra.BigOperators.Group.List.Lemmas
import FeatureGate.Proofs.Store.Footprint
import FeatureGate.Proofs.Store.Recording
import FeatureGate.Proofs.Tables

/-!
# What the store in memory lists

The store in memory is asked three things about its rows as a whole: the names of the
features that have rows, the number of rows of a feature, and the number of all rows. All
of them are read off the one map that holds the rows, so they tell the same story
(`Rows.Tallies`) whatever was done to it. What was done to it is told row by row: a row is
what the calls have left in it, one after another (`Rows.get?_after`).
-/

namespace FeatureGate.Store

namespace Rows

variable (rows : Rows) (feature key : String)

/-! ## The names -/

theorem mem_keys_iff (address : Address) :
    address ∈ rows.keys ↔ (rows.get? address.feature address.key).isSome := by
  rw [Std.ExtTreeMap.mem_keys, Std.ExtTreeMap.mem_iff_isSome_getElem?]
  rfl

theorem mem_features : feature ∈ rows.features ↔ feature ∈ rows.keys.map Address.feature := by
  simp [features]

/-- A feature is listed if it has rows. -/
theorem mem_features_iff_exists :
    feature ∈ rows.features ↔ ∃ key, (rows.get? feature key).isSome := by
  rw [mem_features, List.mem_map]
  constructor
  · rintro ⟨address, hmem, rfl⟩
    exact ⟨address.key, (rows.mem_keys_iff address).mp hmem⟩
  · rintro ⟨key, hrow⟩
    exact ⟨⟨feature, key⟩, (rows.mem_keys_iff ⟨feature, key⟩).mpr hrow, rfl⟩

/-- The names increase. -/
theorem pairwise_features : rows.features.Pairwise (· < ·) := by
  refine Std.ExtTreeSet.ordered_toList.imp fun hlt => ?_
  exact compareOfLessAndEq_eq_lt.mp hlt

theorem nodup_features : rows.features.Nodup := by
  refine rows.pairwise_features.imp fun hlt => ?_
  rintro rfl
  exact String.lt_irrefl _ hlt

/-- **What is listed** is the features of the rows, each of them once. -/
theorem features_perm_dedup : rows.features.Perm (rows.keys.map Address.feature).dedup := by
  refine (List.perm_ext_iff_of_nodup rows.nodup_features (List.nodup_dedup _)).mpr ?_
  intro feature
  rw [List.mem_dedup, mem_features]

/-! ## The numbers of rows -/

/-- The keys that a feature has rows for. -/
def keysFor : List String :=
  (rows.keys.filter fun address => address.feature = feature).map Address.key

theorem mem_keysFor : key ∈ rows.keysFor feature ↔ (rows.get? feature key).isSome := by
  simp only [keysFor, List.mem_map, List.mem_filter, mem_keys_iff, decide_eq_true_eq]
  constructor
  · rintro ⟨address, ⟨hrow, rfl⟩, rfl⟩
    exact hrow
  · intro hrow
    exact ⟨⟨feature, key⟩, ⟨hrow, rfl⟩, rfl⟩

theorem nodup_keysFor : (rows.keysFor feature).Nodup := by
  refine List.Nodup.map_on (fun a ha b hb hkey => ?_) (Std.ExtTreeMap.nodup_keys.filter _)
  have hfeature : a.feature = b.feature :=
    (of_decide_eq_true (List.mem_filter.mp ha).2).trans
      (of_decide_eq_true (List.mem_filter.mp hb).2).symm
  exact address_inj.mpr ⟨hfeature, hkey⟩

/-- **The rows of a feature are counted by their keys.** -/
theorem encard_keys_eq_countFor :
    {key | (rows.get? feature key).isSome = true}.encard = rows.countFor feature := by
  rw [Tables.encard_eq_length (rows.nodup_keysFor feature) (rows.mem_keysFor feature ·),
    keysFor, List.length_map]
  rfl

theorem countFor_eq_count :
    rows.countFor feature = (rows.keys.map Address.feature).count feature := by
  rw [countFor, List.count_eq_countP, List.countP_map, List.countP_eq_length_filter]
  rfl

/-- **All rows are those of the features that are listed.** -/
theorem size_eq_sum : rows.size = (rows.features.map rows.countFor).sum :=
  calc rows.size
    _ = (rows.keys.map Address.feature).length := by
      rw [List.length_map, Std.ExtTreeMap.length_keys]
    _ = ((rows.keys.map Address.feature).dedup.map fun feature =>
          (rows.keys.map Address.feature).count feature).sum :=
      (List.sum_map_count_dedup_eq_length _).symm
    _ = ((rows.keys.map Address.feature).dedup.map rows.countFor).sum := by
      simp only [← countFor_eq_count]
    _ = (rows.features.map rows.countFor).sum :=
      (rows.features_perm_dedup.map _).sum_eq.symm

/-- **Names that tally with rows**, as do the numbers of rows. -/
structure Tallies (names : List String) : Prop where
  /-- The names increase. -/
  increasing : names.Pairwise (· < ·)
  /-- A feature is named just if it has rows. -/
  mem_iff (feature : String) : feature ∈ names ↔ ∃ key, (rows.get? feature key).isSome
  /-- The rows of a feature are counted by their keys. -/
  count (feature : String) :
    {key | (rows.get? feature key).isSome = true}.encard = rows.countFor feature
  /-- All rows are those of the features that are named. -/
  size : rows.size = (names.map rows.countFor).sum

theorem tallies_features : rows.Tallies rows.features where
  increasing := rows.pairwise_features
  mem_iff := rows.mem_features_iff_exists
  count := rows.encard_keys_eq_countFor
  size := rows.size_eq_sum

/-! ## After calls -/

/-- **A row is what the calls have left in it**, one after another. -/
theorem get?_after (calls : List Call) :
    (memory.after calls rows).get? feature key
      = calls.foldl (fun row call => call.leaves feature key row) (rows.get? feature key) := by
  induction calls generalizing rows with
  | nil => rfl
  | cons call rest ih =>
    rw [List.foldl_cons, ← get?_answer]
    exact ih (rows.answer call).2

/-- Overwriting the rows of a feature makes no row and removes none. -/
theorem isSome_get?_setForAll (f : String) (value : Payload) :
    ((rows.setForAll f value).get? feature key).isSome = (rows.get? feature key).isSome := by
  rw [get?_setForAll, Option.isSome_map]

/-- **A first write fails** just where there is a row, and in one way. -/
theorem answer_insert_eq_error_iff (value : Payload) (error : StoreError) :
    (rows.answer (.insert feature key value)).1 = .error error
      ↔ error = .conflict feature key ∧ (rows.get? feature key).isSome := by
  cases hrow : rows.get? feature key with
  | none =>
    rw [answer_insert_of_none hrow]
    simp
  | some payload =>
    rw [answer_insert_of_some hrow]
    simp [eq_comm]

variable {rows}

/-- **A call that fails changes nothing.** -/
theorem answer_of_error {call : Call} {error : StoreError}
    (h : (rows.answer call).1 = .error error) : (rows.answer call).2 = rows := by
  cases call with
  | get | getMany | listStored => rfl
  | insert feature key value =>
    have hrow := ((rows.answer_insert_eq_error_iff feature key value error).mp h).2
    obtain ⟨payload, hpayload⟩ := Option.isSome_iff_exists.mp hrow
    rw [answer_insert_of_some hpayload]
  | set | setForAll | delete | purge => cases h

/-- **The store in memory lists what it holds**, after any calls.

* A row is what the calls have left in it.
* The names that are listed, the number of rows of each feature and the number of all rows
  tally with the rows.
* Overwriting the rows of a feature makes no row and removes none, and does not touch those
  of other features.
* A first write fails just where there is a row, and a call that fails changes nothing. -/
theorem listings_exact (calls : List Call) :
    let rows := memory.after calls (∅ : Rows)
    (∀ feature key, rows.get? feature key
        = calls.foldl (fun row call => call.leaves feature key row) none)
      ∧ (∃ names, (rows.answer .listStored).1 = .ok names ∧ rows.Tallies names)
      ∧ (∀ feature value,
          let overwritten := (rows.answer (.setForAll feature value)).2
          (∀ f k, (overwritten.get? f k).isSome = (rows.get? f k).isSome)
            ∧ ∀ f k, f ≠ feature → overwritten.get? f k = rows.get? f k)
      ∧ (∀ feature key value error,
          (rows.answer (.insert feature key value)).1 = .error error
            ↔ error = .conflict feature key ∧ (rows.get? feature key).isSome)
      ∧ ∀ call error, (rows.answer call).1 = .error error → (rows.answer call).2 = rows := by
  intro rows
  refine ⟨fun feature key => ?_, ⟨rows.features, rfl, rows.tallies_features⟩, ?_,
    rows.answer_insert_eq_error_iff, fun call error => answer_of_error⟩
  · rw [get?_after, get?_empty]
  · intro feature value overwritten
    refine ⟨fun f k => rows.isSome_get?_setForAll f k feature value, fun f k hother => ?_⟩
    have hwrites : ¬ (Call.setForAll feature value).Writes ⟨f, k⟩ := hother
    exact get?_answer_of_not_writes hwrites

end Rows

end FeatureGate.Store
