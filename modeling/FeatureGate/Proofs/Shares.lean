import FeatureGate.Proofs.Variants
import Mathlib.Order.Interval.Finset.Nat

/-!
# Weights are shares of the buckets

The weights of a table cut the buckets into intervals, one for each entry, in order:
an entry begins where those before it end, and has as many buckets as its weight
(`VariantTable.start`). An entry of weight zero has none, wherever it stands.

Selection looks at one weight after another, and never at an interval. For a table
that was checked it comes to the same (`VariantTable.splits_exactly`): a bucket falls
to the entry that covers it, so every variant gets as many of the hundred buckets as
its weight says, and none that has no weight is ever chosen.
-/

namespace FeatureGate

namespace VariantTable

variable {table : VariantTable} {variants : List (String × UInt32)} {bucket i j : Nat}

/-! ## The sum in a word -/

/-- The sum of the weights as a word of 64 bits. -/
def wordSum (table : VariantTable) : UInt64 :=
  table.variants.foldl (fun sum share => sum + share.2.toUInt64) 0

theorem weightSum_le (variants : List (String × UInt32)) :
    weightSum ⟨variants⟩ ≤ variants.length * (UInt32.size - 1) := by
  induction variants with
  | nil => exact Nat.zero_le _
  | cons share rest ih =>
    have hweight : share.2.toNat ≤ UInt32.size - 1 := Nat.le_sub_one_of_lt share.2.toNat_lt
    rw [weightSum_cons, List.length_cons, Nat.succ_mul]
    omega

/-- A sum that fits is the exact one, whatever it begins with. -/
theorem toNat_foldl_of_fits {sum : UInt64}
    (hfits : sum.toNat + weightSum ⟨variants⟩ < UInt64.size) :
    (variants.foldl (fun sum share => sum + share.2.toUInt64) sum).toNat
      = sum.toNat + weightSum ⟨variants⟩ := by
  induction variants generalizing sum with
  | nil => rfl
  | cons share rest ih =>
    rw [weightSum_cons] at hfits ⊢
    have hone : (sum + share.2.toUInt64).toNat = sum.toNat + share.2.toNat := by
      rw [UInt64.toNat_add, UInt32.toNat_toUInt64]
      exact Nat.mod_eq_of_lt (Nat.lt_of_le_of_lt (by omega) hfits)
    rw [List.foldl_cons, ih (by omega), hone]
    omega

/-- **The sum in a word is the exact one**, for as many weights as there are words of 32
bits. -/
theorem toNat_wordSum (table : VariantTable) (h : table.variants.length ≤ UInt32.size) :
    table.wordSum.toNat = table.weightSum := by
  have hfits : (0 : UInt64).toNat + weightSum ⟨table.variants⟩ < UInt64.size := by
    calc (0 : UInt64).toNat + weightSum ⟨table.variants⟩
        = weightSum ⟨table.variants⟩ := Nat.zero_add _
      _ ≤ table.variants.length * (UInt32.size - 1) := weightSum_le _
      _ ≤ UInt32.size * (UInt32.size - 1) := Nat.mul_le_mul_right _ h
      _ < UInt64.size := by decide
  exact (toNat_foldl_of_fits hfits).trans (Nat.zero_add _)

/-! ## Intervals of buckets -/

/-- **Where the buckets of an entry begin**: at the sum of the weights before it. -/
def start (table : VariantTable) (i : Nat) : Nat :=
  weightSum ⟨table.variants.take i⟩

/-- **An entry covers** the buckets from its start up to the start of the next one. -/
def Covers (table : VariantTable) (i bucket : Nat) : Prop :=
  table.start i ≤ bucket ∧ bucket < table.start (i + 1)

/-- **The buckets that fall to a variant.** -/
def buckets (table : VariantTable) (name : String) : Finset Nat :=
  (Finset.range total).filter fun bucket => table.select bucket.toUInt8 = name

theorem start_cons_succ (share : String × UInt32) (rest : List (String × UInt32)) (i : Nat) :
    start ⟨share :: rest⟩ (i + 1) = share.2.toNat + start ⟨rest⟩ i := rfl

theorem covers_cons_succ {share : String × UInt32} {rest : List (String × UInt32)} :
    Covers ⟨share :: rest⟩ (i + 1) bucket
      ↔ share.2.toNat ≤ bucket ∧ Covers ⟨rest⟩ i (bucket - share.2.toNat) := by
  simp only [Covers, start_cons_succ]
  omega

/-- An entry ends after as many buckets as its weight. -/
theorem start_succ (h : i < table.variants.length) :
    table.start (i + 1) = table.start i + table.variants[i].2.toNat := by
  obtain ⟨variants⟩ := table
  induction variants generalizing i with
  | nil => cases h
  | cons share rest ih =>
    cases i with
    | zero => exact Nat.add_comm share.2.toNat 0
    | succ i =>
      have hi : i < rest.length := Nat.lt_of_succ_lt_succ h
      have hrest : start ⟨rest⟩ (i + 1) = start ⟨rest⟩ i + rest[i].2.toNat := ih hi
      rw [start_cons_succ, start_cons_succ, hrest, Nat.add_assoc]
      rfl

theorem start_of_le (h : table.variants.length ≤ i) : table.start i = table.weightSum := by
  rw [start, List.take_of_length_le h]

theorem start_mono (table : VariantTable) : Monotone table.start := by
  refine monotone_nat_of_le_succ fun i => ?_
  rcases Nat.lt_or_ge i table.variants.length with hi | hi
  · rw [start_succ hi]
    exact Nat.le_add_right ..
  · rw [start_of_le hi, start_of_le (Nat.le_succ_of_le hi)]

theorem start_le_weightSum (table : VariantTable) (i : Nat) : table.start i ≤ table.weightSum := by
  rw [← table.start_of_le (Nat.le_max_right i table.variants.length)]
  exact table.start_mono (Nat.le_max_left ..)

/-- What covers a bucket has a weight. -/
theorem Covers.weight_pos (h : table.Covers i bucket) (hi : i < table.variants.length) :
    0 < table.variants[i].2.toNat := by
  have hsucc := start_succ hi
  obtain ⟨hlow, hhigh⟩ := h
  omega

/-- **No bucket is covered twice.** -/
theorem Covers.unique (h : table.Covers i bucket) (h' : table.Covers j bucket) : i = j := by
  have hnot : ∀ {i j}, table.Covers i bucket → table.Covers j bucket → ¬ i < j := by
    intro i j h h' hlt
    have hle := table.start_mono (show i + 1 ≤ j from hlt)
    exact absurd (h.2.trans_le hle) (Nat.not_lt_of_le h'.1)
  exact Nat.le_antisymm (Nat.le_of_not_lt (hnot h' h)) (Nat.le_of_not_lt (hnot h h'))

/-- **Every bucket below the sum is covered.** -/
theorem exists_covers (h : bucket < table.weightSum) :
    ∃ i : Fin table.variants.length, table.Covers i bucket := by
  obtain ⟨variants⟩ := table
  induction variants generalizing bucket with
  | nil => exact absurd h (Nat.not_lt_zero bucket)
  | cons share rest ih =>
    rw [weightSum_cons] at h
    rcases Nat.lt_or_ge bucket share.2.toNat with hhere | hpast
    · exact ⟨⟨0, Nat.succ_pos _⟩, Nat.zero_le _, hhere⟩
    · have hrest : bucket - share.2.toNat < weightSum ⟨rest⟩ := by omega
      obtain ⟨i, hi⟩ := ih hrest
      exact ⟨i.succ, covers_cons_succ.mpr ⟨hpast, hi⟩⟩

/-- No two entries have one name if none is listed twice. -/
theorem index_unique (hnodup : table.names.Nodup) (hi : i < table.variants.length)
    (hj : j < table.variants.length) (h : table.variants[i].1 = table.variants[j].1) : i = j := by
  have hname : ∀ {k}, (hk : k < table.variants.length) →
      table.names[k]? = some table.variants[k].1 := fun hk => by simp [names, hk]
  have hlength : i < table.names.length := by simpa [names] using hi
  refine (List.getElem?_inj hlength hnodup).mp ?_
  rw [hname hi, hname hj, h]

/-! ## Selection -/

/-- **The walk ends at the entry that covers the bucket**, counted on from a total. -/
theorem firstAbove_of_covers {bucket before : UInt32} (hi : i < variants.length)
    (hfits : before.toNat + weightSum ⟨variants⟩ < UInt32.size)
    (hbefore : before.toNat ≤ bucket.toNat)
    (hcovers : Covers ⟨variants⟩ i (bucket.toNat - before.toNat)) :
    firstAbove bucket before variants = some variants[i].1 := by
  induction variants generalizing before i with
  | nil => cases hi
  | cons share rest ih =>
    rw [weightSum_cons] at hfits
    have htotal := toNat_add_of_fits before share.2 (by omega)
    cases i with
    | zero =>
      have hhere : bucket < before + share.2 := by
        have hhigh : bucket.toNat - before.toNat < share.2.toNat := hcovers.2
        rw [UInt32.lt_iff_toNat_lt, htotal]
        omega
      exact if_pos hhere
    | succ i =>
      obtain ⟨hpast, hcovers⟩ := covers_cons_succ.mp hcovers
      have hnot : ¬ bucket < before + share.2 := by
        rw [UInt32.lt_iff_toNat_lt, htotal]
        omega
      rw [Nat.sub_sub, ← htotal] at hcovers
      exact (if_neg hnot).trans
        (ih (Nat.lt_of_succ_lt_succ hi) (by omega) (by omega) hcovers)

section Checked

variable (hchecked : table.fault? = none)
include hchecked

theorem weightSum_of_checked : table.weightSum = total :=
  (table.fault?_eq_none_iff.mp hchecked).2.2

theorem fits_of_checked : (0 : UInt32).toNat + weightSum ⟨table.variants⟩ < UInt32.size := by
  have hsum : weightSum ⟨table.variants⟩ = total := weightSum_of_checked hchecked
  rw [hsum]
  decide

/-- A bucket falls to the entry of a checked table that covers it. -/
theorem firstAbove_of_checked {bucket : UInt8} (hi : i < table.variants.length)
    (hcovers : table.Covers i bucket.toNat) :
    firstAbove bucket.toUInt32 0 table.variants = some table.variants[i].1 :=
  firstAbove_of_covers hi (fits_of_checked hchecked) (Nat.zero_le _) hcovers

theorem select_of_checked {bucket : UInt8} (hi : i < table.variants.length)
    (hcovers : table.Covers i bucket.toNat) : table.select bucket = table.variants[i].1 := by
  rw [select, firstAbove_of_checked hchecked hi hcovers]

/-- **One entry of a checked table covers a bucket.** -/
theorem existsUnique_covers (hbucket : bucket < total) :
    ∃! i : Fin table.variants.length, table.Covers i bucket := by
  rw [← weightSum_of_checked hchecked] at hbucket
  obtain ⟨i, hi⟩ := exists_covers hbucket
  exact ⟨i, hi, fun j hj => Fin.ext (hj.unique hi)⟩

/-- **The buckets that fall to a variant are an interval**, since no other has its name. -/
theorem buckets_eq_Ico (hi : i < table.variants.length) :
    table.buckets table.variants[i].1 = Finset.Ico (table.start i) (table.start (i + 1)) := by
  have hnodup : table.names.Nodup := (table.fault?_eq_none_iff.mp hchecked).2.1
  ext bucket
  rw [buckets, Finset.mem_filter, Finset.mem_range, Finset.mem_Ico]
  have hselect : ∀ {j}, (hj : j < table.variants.length) → bucket < total →
      table.Covers j bucket → table.select bucket.toUInt8 = table.variants[j].1 := by
    intro j hj hbucket hcovers
    have hword : bucket.toUInt8.toNat = bucket :=
      UInt8.toNat_ofNat_of_lt (hbucket.trans (by decide))
    exact select_of_checked hchecked hj (by rwa [hword])
  constructor
  · rintro ⟨hbucket, hname⟩
    obtain ⟨j, hj, -⟩ := existsUnique_covers hchecked hbucket
    rw [hselect j.isLt hbucket hj] at hname
    exact index_unique hnodup j.isLt hi hname ▸ hj
  · intro hcovers
    have hbucket : bucket < total := by
      rw [← weightSum_of_checked hchecked]
      exact hcovers.2.trans_le (table.start_le_weightSum _)
    exact ⟨hbucket, hselect hi hbucket hcovers⟩

/-- **A variant gets as many buckets as its weight.** -/
theorem card_buckets {share : String × UInt32} (hshare : share ∈ table.variants) :
    (table.buckets share.1).card = share.2.toNat := by
  obtain ⟨i, hi, rfl⟩ := List.getElem_of_mem hshare
  rw [buckets_eq_Ico hchecked hi, Nat.card_Ico, start_succ hi, Nat.add_sub_cancel_left]

/-- A variant that is chosen has a weight. -/
theorem exists_select_eq {bucket : UInt8} (hbucket : bucket.toNat < total) :
    ∃ share ∈ table.variants, 0 < share.2 ∧ table.select bucket = share.1 := by
  obtain ⟨i, hi, -⟩ := existsUnique_covers hchecked hbucket
  exact ⟨_, List.getElem_mem i.isLt, UInt32.lt_iff_toNat_lt.mpr (hi.weight_pos i.isLt),
    select_of_checked hchecked i.isLt hi⟩

end Checked

/-- What is made of a list of weights is a table of them that passes the check. -/
theorem of_ofList_eq_ok {feature : String} (h : ofList feature variants = .ok table) :
    table.variants = variants ∧ table.fault? = none := by
  have htable : table = ⟨variants⟩ := by
    unfold ofList at h
    dsimp only at h
    split at h
    · cases h
    · exact (Except.ok.inj h).symm
  subst htable
  exact ⟨rfl, (ofList_eq_ok_iff feature _).mp h⟩

/-- **The weights of a table split the buckets exactly.**

* A table is made of a list of weights just if the list is not empty, names every variant
  once, and sums to a hundred; that the sum is taken in a word makes no difference.
* Every bucket is covered by exactly one entry of it, to which it falls. No running total
  overflows on the way, and the walk does not go past the last entry.
* So a variant gets as many buckets as its weight, and whatever the feature and the key are,
  the variant chosen is one that has a weight. -/
theorem splits_exactly (feature : String) (variants : List (String × UInt32)) :
    ((∃ table, ofList feature variants = .ok table)
        ↔ variants ≠ [] ∧ (variants.map (·.1)).Nodup ∧ weightSum ⟨variants⟩ = 100)
      ∧ (variants.length ≤ 4294967296 → (wordSum ⟨variants⟩).toNat = weightSum ⟨variants⟩)
      ∧ ∀ table, ofList feature variants = .ok table →
        table.variants = variants
          ∧ (∀ bucket : UInt8, bucket.toNat < 100 →
            (∃! i : Fin table.variants.length, table.Covers i bucket.toNat)
              ∧ (∀ i : Fin table.variants.length, table.Covers i bucket.toNat →
                firstAbove bucket.toUInt32 0 table.variants = some table.variants[i].1
                  ∧ table.select bucket = table.variants[i].1)
              ∧ overflows bucket.toUInt32 0 table.variants = false)
          ∧ (∀ share ∈ table.variants, (table.buckets share.1).card = share.2.toNat)
          ∧ ∀ feature key, ∃ share ∈ table.variants,
            0 < share.2 ∧ Bucket.variant feature key table = share.1 := by
  refine ⟨?_, toNat_wordSum ⟨variants⟩, ?_⟩
  · have haccepted := fault?_eq_none_iff ⟨variants⟩
    constructor
    · rintro ⟨table, htable⟩
      obtain ⟨rfl, hchecked⟩ := of_ofList_eq_ok htable
      exact haccepted.mp hchecked
    · intro hsound
      exact ⟨_, (ofList_eq_ok_iff feature _).mpr (haccepted.mpr hsound)⟩
  · intro table htable
    obtain ⟨hvariants, hchecked⟩ := of_ofList_eq_ok htable
    refine ⟨hvariants, fun bucket hbucket => ⟨existsUnique_covers hchecked hbucket, ?_, ?_⟩,
      fun share => card_buckets hchecked,
      fun feature key => exists_select_eq hchecked (Bucket.of_lt feature key)⟩
    · intro i hcovers
      exact ⟨firstAbove_of_checked hchecked i.isLt hcovers,
        select_of_checked hchecked i.isLt hcovers⟩
    · exact overflows_eq_false_of_fits (fits_of_checked hchecked)

/-- A table with entries of weight zero at both ends: the first bucket and the last one fall to
the entries in between, which get thirty and seventy buckets. -/
theorem splits_exactly_between_zeros :
    let variants : List (String × UInt32) := [("off", 0), ("a", 30), ("b", 70), ("late", 0)]
    ∃ table, ofList "checkout" variants = .ok table
      ∧ (table.buckets "a").card = 30 ∧ (table.buckets "late").card = 0
      ∧ table.select 29 = "a" ∧ table.select 99 = "b" := by
  intro variants
  obtain ⟨haccepted, -, hsplits⟩ := splits_exactly "checkout" variants
  obtain ⟨table, htable⟩ := haccepted.mpr (by decide)
  obtain ⟨hvariants, hbuckets, hcards, -⟩ := hsplits table htable
  obtain rfl : table = ⟨variants⟩ := congrArg VariantTable.mk hvariants
  exact ⟨_, htable, hcards ("a", 30) (by decide), hcards ("late", 0) (by decide),
    ((hbuckets 29 (by decide)).2.1 ⟨1, by decide⟩ ⟨by decide, by decide⟩).2,
    ((hbuckets 99 (by decide)).2.1 ⟨2, by decide⟩ ⟨by decide, by decide⟩).2⟩

end VariantTable

end FeatureGate
