import FeatureGate.Resolver.Basic
import FeatureGate.Text.Quoted

/-!
# Inspection

The texts that payloads, rules, scopes and resolvers are shown as, for a person
who looks into a running process. Structure is spelled out: every payload names
its sort, lists are bracketed, maps are braced and sorted by name.
-/

namespace FeatureGate

open Text (quoted)

/-- Items separated by commas. -/
def Inspect.separated (items : List String) : String := String.intercalate ", " items

/-- Items in braces, with their names. -/
def Inspect.braced (items : List String) : String :=
  "\x7b" ++ Inspect.separated items ++ "\x7d"

mutual

/-- How a payload is shown. -/
def Json.inspect : Json → String
  | .null => "Null"
  | .bool value => "Bool(" ++ toString value ++ ")"
  | .number value => "Number(" ++ value.text ++ ")"
  | .string value => "String(" ++ quoted value ++ ")"
  | .array items => "Array [" ++ Inspect.separated (Json.inspectItems items) ++ "]"
  | .object fields => "Object " ++ Inspect.braced (Json.inspectFields fields)

/-- How the items of a list are shown. -/
def Json.inspectItems : List Json → List String
  | [] => []
  | item :: rest => item.inspect :: Json.inspectItems rest

/-- How fields are shown. -/
def Json.inspectFields : List (String × Json) → List String
  | [] => []
  | (name, value) :: rest =>
    (quoted name ++ ": " ++ value.inspect) :: Json.inspectFields rest

end

/-- How a variant table is shown. -/
def VariantTable.inspect (table : VariantTable) : String :=
  let shares := table.variants.map fun (name, weight) =>
    "(" ++ quoted name ++ ", " ++ toString weight.toNat ++ ")"
  "VariantWeights \x7b variants: [" ++ Inspect.separated shares ++ "] \x7d"

/-- **How a rule is shown.** -/
def Rule.inspect : Rule → String
  | .constant payload => "Static(" ++ payload.inspect ++ ")"
  | .closure _ => "Closure(..)"
  | .percentage rate => "Percentage(" ++ toString rate.toNat ++ ")"
  | .variants table => "Variants(" ++ table.inspect ++ ")"

/-- How a scope is shown. -/
def Scope.inspect (scope : Scope) : String :=
  "Scope \x7b kind: " ++ quoted scope.kind ++ ", constraints: "
    ++ Inspect.braced (Json.inspectFields scope.constraints.toList) ++ " \x7d"

/-- **How a resolver is shown**: the sort of its store, how many features are
defined and values cached, and the ambient scope. -/
def Resolver.Work.inspect (work : Resolver.Work) (storeKind : String) : String :=
  let ambient := match work.ambient with
    | some scope => "Some(" ++ scope.inspect ++ ")"
    | none => "None"
  "FeatureResolver \x7b store: " ++ quoted storeKind
    ++ ", defined: " ++ toString work.registry.size
    ++ ", cached: " ++ toString work.cache.size
    ++ ", ambient_scope: " ++ ambient ++ " \x7d"

end FeatureGate
