import FeatureGate.Error

/-!
# Variant tables

A variant feature splits its contexts over named variants by weight. A table
lists the variants in order with their weights; a bucket below a hundred falls
to the first variant whose cumulative weight exceeds it.

`VariantTable.ofList` is the checked way to make a table: not empty, every name
once, weights summing to exactly a hundred. A table that is read from a
document is not checked, so selection is defined for every table and every
bucket: past the last cumulative weight it falls to the last variant, and an
empty table selects the empty name. The running total is a 32-bit word, as the
weights are.
-/

namespace FeatureGate

/-- **A table of weighted variants**, in the order they are tried. -/
structure VariantTable where
  /-- The variants with their weights. -/
  variants : List (String × UInt32)
deriving DecidableEq, Repr

namespace VariantTable

/-- The sum of the weights of a checked table, and the number of buckets. -/
def total : Nat := 100

/-- What is wrong with a list of weights. -/
inductive Fault where
  /-- There is no variant. -/
  | empty
  /-- A name is listed again. -/
  | repeated (name : String)
  /-- The weights do not sum to a hundred. -/
  | sum (weights : Nat)
deriving DecidableEq, Repr

/-- The wording of a fault. -/
def Fault.message : Fault → String
  | empty => "table is empty"
  | repeated name => "variant '" ++ name ++ "' listed twice"
  | sum weights =>
    "weights sum to " ++ toString weights ++ ", expected " ++ toString total

/-- The first name of a list that occurs earlier in it, given the names before
the list. -/
def firstRepeated (before : List String) : List String → Option String
  | [] => none
  | name :: rest =>
    if before.contains name then some name else firstRepeated (name :: before) rest

/-- The names in order. -/
def names (table : VariantTable) : List String := table.variants.map (·.1)

/-- The exact sum of the weights. -/
def weightSum (table : VariantTable) : Nat :=
  (table.variants.map (·.2.toNat)).foldr (· + ·) 0

/-- **What is wrong with a table**, if anything: emptiness counts before a
repeated name, and that before a wrong sum. -/
def fault? (table : VariantTable) : Option Fault :=
  if table.variants.isEmpty then some .empty
  else match firstRepeated [] table.names with
    | some name => some (.repeated name)
    | none => if table.weightSum = total then none else some (.sum table.weightSum)

/-- **A checked table** for a feature. -/
def ofList (feature : String) (variants : List (String × UInt32)) :
    Except FeatureError VariantTable :=
  let table : VariantTable := ⟨variants⟩
  match table.fault? with
  | some fault => .error (.invalidVariantWeights feature fault.message)
  | none => .ok table

/-- The first variant whose cumulative weight, counted on from `before`,
exceeds a bucket. -/
def firstAbove (bucket before : UInt32) : List (String × UInt32) → Option String
  | [] => none
  | (name, weight) :: rest =>
    if bucket < before + weight then some name
    else firstAbove bucket (before + weight) rest

/-- **The variant a bucket falls to.** -/
def select (table : VariantTable) (bucket : UInt8) : String :=
  match firstAbove bucket.toUInt32 0 table.variants with
  | some name => name
  | none => (table.variants.getLast?.map (·.1)).getD ""

/-- Whether a table lists a variant. -/
def contains (table : VariantTable) (name : String) : Bool :=
  table.variants.any (·.1 == name)

end VariantTable

end FeatureGate
