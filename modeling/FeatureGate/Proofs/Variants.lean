import FeatureGate.Registry
import FeatureGate.Context.Document
import Mathlib.Data.List.Nodup

/-!
# Which variant tables are sound

Selection trusts its table: it neither checks that a bucket is covered nor that
the running total stays inside its word. For a checked table that trust is
earned, because the weights sum to a hundred: every bucket is below the sum, so
the walk ends at a variant of the table, and no total passes a hundred on the
way.

Registration does not look at the table again. A table that was read from a
document, and not made by `VariantTable.ofList`, is registered as it is, and
what is registered is sound for exactly those tables that would have passed the
check (`Registry.splitsSoundly_iff`). The empty table is one of the others: it
sends every context to the empty name.
-/

namespace FeatureGate

namespace VariantTable

/-! ## What the check accepts -/

/-- A search that starts with some names finds nothing in a list without
repetitions that shares none with them. -/
theorem firstRepeated_eq_none_iff (before names : List String) :
    firstRepeated before names = none ↔ names.Nodup ∧ ∀ name ∈ names, name ∉ before := by
  induction names generalizing before with
  | nil => simp [firstRepeated]
  | cons name rest ih =>
    rw [firstRepeated, List.nodup_cons]
    by_cases hseen : before.contains name = true
    · have hmem : name ∈ before := by simpa using hseen
      simp [hmem]
    · have hnew : name ∉ before := by simpa using hseen
      simp only [List.contains_eq_mem, hnew, decide_false, Bool.false_eq_true, if_false, ih]
      constructor
      · rintro ⟨hrest, hfresh⟩
        refine ⟨⟨fun hagain => hfresh name hagain (by simp), hrest⟩, ?_⟩
        rintro other (_ | ⟨_, hother⟩)
        · exact hnew
        · exact fun hbefore => hfresh other hother (by simp [hbefore])
      · rintro ⟨⟨honce, hrest⟩, hfresh⟩
        refine ⟨hrest, fun other hother => ?_⟩
        rintro (_ | ⟨_, hbefore⟩)
        · exact honce hother
        · exact hfresh other (by simp [hother]) hbefore

/-- **The check accepts exactly** the tables that are not empty, list every name
once and have weights that sum to a hundred. -/
theorem fault?_eq_none_iff (table : VariantTable) :
    table.fault? = none ↔
      table.variants ≠ [] ∧ table.names.Nodup ∧ table.weightSum = total := by
  have hdistinct := firstRepeated_eq_none_iff [] table.names
  unfold fault?
  cases hempty : table.variants with
  | nil => simp
  | cons share rest =>
    cases hrepeated : firstRepeated [] table.names with
    | some name =>
      have : ¬ table.names.Nodup := by simpa [hrepeated] using hdistinct
      simp [this]
    | none =>
      have : table.names.Nodup := by simpa [hrepeated] using hdistinct
      simp [this]

/-- A table is made of a list of weights just if the check accepts it. -/
theorem ofList_eq_ok_iff (feature : String) (table : VariantTable) :
    ofList feature table.variants = .ok table ↔ table.fault? = none := by
  have htable : (⟨table.variants⟩ : VariantTable) = table := rfl
  simp only [ofList, htable]
  cases table.fault? <;> simp

/-! ## The walk to a bucket's variant -/

/-- **Whether the running total leaves its word** on the way to the variant of a
bucket. The walk ends at the first total above the bucket, so what is behind it
is never counted. -/
def overflows (bucket before : UInt32) : List (String × UInt32) → Bool
  | [] => false
  | (_, weight) :: rest =>
    decide (UInt32.size ≤ before.toNat + weight.toNat)
      || (!decide (bucket < before + weight) && overflows bucket (before + weight) rest)

variable {bucket before : UInt32} {variants : List (String × UInt32)}

/-- The sum of the weights of a list, one weight at a time. -/
theorem weightSum_cons (share : String × UInt32) (rest : List (String × UInt32)) :
    weightSum ⟨share :: rest⟩ = share.2.toNat + weightSum ⟨rest⟩ := rfl

/-- A total that fits into its word is the exact one. -/
theorem toNat_add_of_fits (before weight : UInt32)
    (hfits : before.toNat + weight.toNat < UInt32.size) :
    (before + weight).toNat = before.toNat + weight.toNat := by
  rw [UInt32.toNat_add]
  exact Nat.mod_eq_of_lt hfits

/-- Nothing overflows as long as the sum of all weights fits. -/
theorem overflows_eq_false_of_fits
    (hfits : before.toNat + weightSum ⟨variants⟩ < UInt32.size) :
    overflows bucket before variants = false := by
  induction variants generalizing before with
  | nil => rfl
  | cons share rest ih =>
    rw [weightSum_cons] at hfits
    have hone : before.toNat + share.2.toNat < UInt32.size := by omega
    have hrest : overflows bucket (before + share.2) rest = false :=
      ih (by rw [toNat_add_of_fits _ _ hone]; omega)
    simp only [overflows, hrest, Bool.and_false, Bool.or_false, decide_eq_false_iff_not]
    omega

/-- **A bucket below the sum of the weights is covered**: the walk ends at one
of the variants. -/
theorem exists_firstAbove_of_lt
    (hfits : before.toNat + weightSum ⟨variants⟩ < UInt32.size)
    (hbucket : bucket.toNat < before.toNat + weightSum ⟨variants⟩)
    (hbefore : before.toNat ≤ bucket.toNat) :
    ∃ name ∈ names ⟨variants⟩, firstAbove bucket before variants = some name := by
  induction variants generalizing before with
  | nil =>
    have hnothing : weightSum ⟨[]⟩ = 0 := rfl
    omega
  | cons share rest ih =>
    rw [weightSum_cons] at hfits hbucket
    have htotal := toNat_add_of_fits before share.2 (by omega)
    by_cases hhere : bucket < before + share.2
    · exact ⟨share.1, by simp [names], by simp [firstAbove, hhere]⟩
    · have hpast : (before + share.2).toNat ≤ bucket.toNat := by
        simpa [UInt32.lt_iff_toNat_lt] using hhere
      obtain ⟨name, hname, hfound⟩ := ih (by omega) (by omega) hpast
      refine ⟨name, ?_, by simpa [firstAbove, hhere] using hfound⟩
      simp only [names, List.map_cons, List.mem_cons]
      exact .inr hname

/-- Selection from a table that covers a bucket gives one of its names. -/
theorem select_mem_names {table : VariantTable} {bucket : UInt8}
    (hfits : table.weightSum < UInt32.size) (hbucket : bucket.toNat < table.weightSum) :
    table.select bucket ∈ table.names := by
  obtain ⟨name, hname, hfound⟩ :
      ∃ name ∈ table.names, firstAbove bucket.toUInt32 0 table.variants = some name :=
    exists_firstAbove_of_lt (by simpa using hfits) (by simpa using hbucket) (by simp)
  simpa only [select, hfound] using hname

end VariantTable

/-! ## What is registered -/

/-- **A definition splits its contexts soundly over a table**: the table has
variants, each with a name of its own and weights that sum to a hundred, and for
every context key the first payload is one of the names, found without an
overflow. -/
structure Definition.SplitsSoundly (definition : Definition) (table : VariantTable) : Prop where
  /-- There is a variant. -/
  nonempty : table.variants ≠ []
  /-- No name is listed twice. -/
  distinct : table.names.Nodup
  /-- The weights sum to a hundred. -/
  sums : table.weightSum = 100
  /-- Every context gets one of the variants. -/
  evaluates : ∀ key, ∃ name ∈ table.names, definition.firstPayload key = .inr (.string name)
  /-- No running total leaves its word. -/
  exact : ∀ key,
    VariantTable.overflows (Bucket.of definition.name key).toUInt32 0 table.variants = false

/-- A feature whose table passes the check splits soundly. -/
theorem Definition.splitsSoundly_of_fault? {definition : Definition} {table : VariantTable}
    (htable : definition.table? = some table) (hchecked : table.fault? = none) :
    definition.SplitsSoundly table := by
  obtain ⟨hnonempty, hdistinct, hsum⟩ := table.fault?_eq_none_iff.mp hchecked
  have hrule : definition.rule = .variants table := by
    unfold table? at htable
    split at htable
    · next same hrule => rwa [Option.some.inj htable] at hrule
    · cases htable
  have hfits : table.weightSum < UInt32.size := by rw [hsum]; decide
  refine ⟨hnonempty, hdistinct, hsum, fun key => ?_, fun key => ?_⟩
  · have hcovered : (Bucket.of definition.name key).toNat < table.weightSum := by
      rw [hsum]
      exact Bucket.of_lt definition.name key
    exact ⟨_, VariantTable.select_mem_names hfits hcovered, by simp [firstPayload, hrule,
      Bucket.variant]⟩
  · exact VariantTable.overflows_eq_false_of_fits (by simpa using hfits)

namespace Registry

/-- **A registered variant feature is sound just if its table is one that is
made of its weights.** Whatever table a definition comes with, registration
takes it as it is. -/
theorem splitsSoundly_iff {registry after : Registry} {definition : Definition}
    {table : VariantTable} (hdefined : registry.define definition = .ok after)
    (htable : definition.table? = some table) :
    after.get? definition.name = some definition ∧
      (definition.SplitsSoundly table
        ↔ VariantTable.ofList definition.name table.variants = .ok table) := by
  refine ⟨by simp [get?_define hdefined], ?_⟩
  rw [VariantTable.ofList_eq_ok_iff]
  constructor
  · intro hsound
    exact table.fault?_eq_none_iff.mpr ⟨hsound.nonempty, hsound.distinct, hsound.sums⟩
  · exact Definition.splitsSoundly_of_fault? htable

/-- A feature that is split over two variants, registered where nothing else is. -/
theorem splitsSoundly_iff_coin :
    ∃ after, empty.define (.ofRule "coin" (.variants ⟨[("heads", 50), ("tails", 50)]⟩)) = .ok after
      ∧ (Definition.ofRule "coin" (.variants ⟨[("heads", 50), ("tails", 50)]⟩)).SplitsSoundly
          ⟨[("heads", 50), ("tails", 50)]⟩ := by
  have hdefined : empty.define
      (.ofRule "coin" (.variants ⟨[("heads", 50), ("tails", 50)]⟩)) = .ok _ := rfl
  have hchecked : VariantTable.ofList "coin" [("heads", 50), ("tails", 50)]
      = .ok ⟨[("heads", 50), ("tails", 50)]⟩ := rfl
  exact ⟨_, hdefined, (splitsSoundly_iff hdefined rfl).2.mpr hchecked⟩

/-- **A table of nothing can be registered.** It is read from a document, no check
stands between it and the registry, and it sends every context to a name that it
does not list. -/
theorem not_splitsSoundly_of_document :
    VariantTable.ofDocument? (.record [("variants", .array [])]) = some ⟨[]⟩
      ∧ ∃ after, empty.define (.ofRule "color" (.variants ⟨[]⟩)) = .ok after
        ∧ after.get? "color" = some (.ofRule "color" (.variants ⟨[]⟩))
        ∧ (∀ key, (Definition.ofRule "color" (.variants ⟨[]⟩)).firstPayload key
            = .inr (.string ""))
        ∧ ¬ (Definition.ofRule "color" (.variants ⟨[]⟩)).SplitsSoundly ⟨[]⟩ := by
  refine ⟨rfl, _, rfl, ?_, fun key => rfl, fun hsound => hsound.nonempty rfl⟩
  simp [get?, empty, Definition.ofRule]

end Registry

end FeatureGate
