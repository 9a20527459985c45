import FeatureGate.Json.Number

/-!
# JSON values

Payloads and scope constraints are JSON values. Objects list their fields in
increasing order of name, each name once: `Fields.put` keeps a list that way,
and `Json.canonical` says so of a whole value. Order and uniqueness belong to
the representation because the text of a value has its fields sorted, and
because two values are equal when their fields are, in whatever order they were
added.

Two notions of equality live side by side. `=` is identity; `Json.equal` is the
equality payloads are compared by, which differs from it on one point alone:
`0.0` and `-0.0` are equal numbers.
-/

namespace FeatureGate

/-- **A JSON value.** -/
inductive Json where
  /-- The absent value. -/
  | null
  /-- A truth value. -/
  | bool (value : Bool)
  /-- An integer or a double. -/
  | number (value : Json.Number)
  /-- A text. -/
  | string (value : String)
  /-- A list of values. -/
  | array (items : List Json)
  /-- Named values, in increasing order of name. -/
  | object (fields : List (String × Json))
deriving Repr, Inhabited

namespace Json

/-! ## Deciding identity -/

mutual

/-- Whether two values are identical. -/
def decEq : (a b : Json) → Decidable (a = b)
  | .null, b => by
    cases b with
    | null => exact isTrue rfl
    | _ => exact isFalse (by simp)
  | .bool x, b => by
    cases b with
    | bool y => exact decidable_of_iff (x = y) (by simp)
    | _ => exact isFalse (by simp)
  | .number x, b => by
    cases b with
    | number y => exact decidable_of_iff (x = y) (by simp)
    | _ => exact isFalse (by simp)
  | .string x, b => by
    cases b with
    | string y => exact decidable_of_iff (x = y) (by simp)
    | _ => exact isFalse (by simp)
  | .array x, b => by
    cases b with
    | array y =>
      have := decEqItems x y
      exact decidable_of_iff (x = y) (by simp)
    | _ => exact isFalse (by simp)
  | .object x, b => by
    cases b with
    | object y =>
      have := decEqFields x y
      exact decidable_of_iff (x = y) (by simp)
    | _ => exact isFalse (by simp)

/-- Whether two lists of values are identical. -/
def decEqItems : (a b : List Json) → Decidable (a = b)
  | [], [] => isTrue rfl
  | [], _ :: _ => isFalse (by simp)
  | _ :: _, [] => isFalse (by simp)
  | x :: xs, y :: ys =>
    match decEq x y, decEqItems xs ys with
    | isTrue h, isTrue hs => isTrue (by rw [h, hs])
    | isFalse h, _ => isFalse (by simp [h])
    | _, isFalse hs => isFalse (by simp [hs])

/-- Whether two lists of fields are identical. -/
def decEqFields : (a b : List (String × Json)) → Decidable (a = b)
  | [], [] => isTrue rfl
  | [], _ :: _ => isFalse (by simp)
  | _ :: _, [] => isFalse (by simp)
  | (j, x) :: xs, (k, y) :: ys =>
    if hk : j = k then
      match decEq x y, decEqFields xs ys with
      | isTrue h, isTrue hs => isTrue (by rw [hk, h, hs])
      | isFalse h, _ => isFalse (by simp [h])
      | _, isFalse hs => isFalse (by simp [hs])
    else isFalse (by simp [hk])

end

instance : DecidableEq Json := decEq

/-! ## Equality of payloads -/

mutual

/-- **Equality of payloads**: the same shape with equal leaves, doubles
compared as numbers. -/
def equal : Json → Json → Bool
  | .null, .null => true
  | .bool x, .bool y => x == y
  | .number x, .number y => x.equal y
  | .string x, .string y => x == y
  | .array x, .array y => equalItems x y
  | .object x, .object y => equalFields x y
  | _, _ => false

/-- Equality of two lists of values, item by item. -/
def equalItems : List Json → List Json → Bool
  | [], [] => true
  | x :: xs, y :: ys => equal x y && equalItems xs ys
  | _, _ => false

/-- Equality of two lists of fields, field by field. -/
def equalFields : List (String × Json) → List (String × Json) → Bool
  | [], [] => true
  | (j, x) :: xs, (k, y) :: ys => j == k && equal x y && equalFields xs ys
  | _, _ => false

end

/-! ## Fields -/

/-- Add a field in its place, replacing one of the same name. -/
def Fields.put (name : String) (value : α) : List (String × α) → List (String × α)
  | [] => [(name, value)]
  | (other, old) :: rest =>
    if name < other then (name, value) :: (other, old) :: rest
    else if name = other then (name, value) :: rest
    else (other, old) :: Fields.put name value rest

/-- The fields of a list in increasing order of name; of several with one name
the last counts. -/
def Fields.ofList (fields : List (String × α)) : List (String × α) :=
  fields.foldl (fun sorted field => Fields.put field.1 field.2 sorted) []

/-- An object of the given fields. -/
def ofFields (fields : List (String × Json)) : Json :=
  .object (Fields.ofList fields)

/-- The value of a field of an object. -/
def field? (value : Json) (name : String) : Option Json :=
  match value with
  | .object fields => (fields.find? (·.1 == name)).map (·.2)
  | _ => none

/-! ## Views -/

/-- Whether the value is `null`. -/
def isNull : Json → Bool
  | .null => true
  | _ => false

/-- The text of a string value. -/
def string? : Json → Option String
  | .string value => some value
  | _ => none

mutual

/-- Whether every object inside a value lists its fields in strictly increasing
order of name. -/
def canonical : Json → Prop
  | .array items => canonicalItems items
  | .object fields => fields.Pairwise (·.1 < ·.1) ∧ canonicalFields fields
  | _ => True

/-- Whether every value of a list is canonical. -/
def canonicalItems : List Json → Prop
  | [] => True
  | item :: rest => item.canonical ∧ canonicalItems rest

/-- Whether every field of a list has a canonical value. -/
def canonicalFields : List (String × Json) → Prop
  | [] => True
  | (_, value) :: rest => value.canonical ∧ canonicalFields rest

end

mutual

/-- Whether no number inside a value is a double. -/
def integral : Json → Bool
  | .number (.double _) => false
  | .array items => integralItems items
  | .object fields => integralFields fields
  | _ => true

/-- Whether every value of a list is free of doubles. -/
def integralItems : List Json → Bool
  | [] => true
  | item :: rest => item.integral && integralItems rest

/-- Whether every field of a list is free of doubles. -/
def integralFields : List (String × Json) → Bool
  | [] => true
  | (_, value) :: rest => value.integral && integralFields rest

end

end Json

/-- **A payload**: what an active feature carries and what a store keeps. -/
abbrev Payload := Json

end FeatureGate
