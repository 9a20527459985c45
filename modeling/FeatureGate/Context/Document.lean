import FeatureGate.Context.Key
import FeatureGate.Variants

/-!
# Written contexts and variant tables

How identities, scopes, contexts and variant tables are written as JSON and
read back. An identity is a choice: the text `null`, or an object with one
field named for the sort of identity. The others are records.
-/

namespace FeatureGate

open Json (Document)

namespace Identity

/-- The document of an identity. -/
def toDocument : Identity → Document
  | .null => .text "null"
  | .scalar id => .record [("scalar", .text id)]
  | .entity kind key =>
    .record [("entity", .record [("kind", .text kind), ("key", .text key)])]
  | .custom id => .record [("custom", .text id)]

/-- The value of an identity, which is what its document says. -/
def toJson : Identity → Json
  | .null => .string "null"
  | .scalar id => .ofFields [("scalar", .string id)]
  | .entity kind key =>
    .ofFields [("entity", .ofFields [("kind", .string kind), ("key", .string key)])]
  | .custom id => .ofFields [("custom", .string id)]

/-- **The identity of a document.** The text `null` may also be written as a
field of that name with the value `null`. -/
def ofDocument? (document : Document) : Option Identity :=
  match document.choice? with
  | some ("null", content) => if content.isNull then some .null else none
  | some ("scalar", content) => content.text?.map .scalar
  | some ("custom", content) => content.text?.map .custom
  | some ("entity", content) => do
    let [kind, key] ← content.fields? ["kind", "key"] | none
    some (.entity (← (← kind).text?) (← (← key).text?))
  | some _ => none
  | none => if document.text? = some "null" then some .null else none

end Identity

namespace Scope

/-- The document of a scope; constraints are written in order of name. -/
def toDocument (scope : Scope) : Document :=
  .record [("kind", .text scope.kind),
    ("constraints", .record (scope.constraints.toList.map fun (name, value) =>
      (name, .ofJson value)))]

/-- The value of a scope. -/
def toJson (scope : Scope) : Json :=
  .ofFields [("kind", .string scope.kind),
    ("constraints", .ofFields scope.constraints.toList)]

/-- The constraints of a document, whose values may open `budget` more arrays
and objects; of repeated names the last counts. -/
def constraintsOfDocument? (budget : Nat) :
    Document → Option (Std.ExtTreeMap String Json)
  | .object fields => do
    let values ← Document.fieldsToJson? budget fields
    some (values.foldl (fun map (name, value) => map.insert name value) ∅)
  | _ => none

/-- The scope of a document that is itself `depth` containers deep. -/
def ofDocumentAt? (depth : Nat) (document : Document) : Option Scope := do
  let [kind, constraints] ← document.fields? ["kind", "constraints"] | none
  some {
    kind := ← (← kind).text?
    constraints := ← constraintsOfDocument? (Json.depthLimit - 2 - depth) (← constraints) }

/-- **The scope of a document.** -/
def ofDocument? (document : Document) : Option Scope := ofDocumentAt? 0 document

end Scope

namespace Context

/-- The document of a context; a missing scope is written as `null`. -/
def toDocument (context : Context) : Document :=
  .record [("identity", context.identity.toDocument),
    ("scope", .ofOption (context.scope.map Scope.toDocument))]

/-- **The value of a context.** It says what the document says, but its numbers
are those of the constraints and not read once more. -/
def toJson (context : Context) : Json :=
  .ofFields [("identity", context.identity.toJson),
    ("scope", (context.scope.map Scope.toJson).getD .null)]

/-- **The context of a document.** The scope may be missing or `null`. -/
def ofDocument? (document : Document) : Option Context := do
  let [identity, scope] ← document.fields? ["identity", "scope"] | none
  let identity ← Identity.ofDocument? (← identity)
  match scope with
  | none => some ⟨identity, none⟩
  | some scope =>
    if scope.isNull then some ⟨identity, none⟩
    else some ⟨identity, some (← Scope.ofDocumentAt? 1 scope)⟩

end Context

namespace VariantTable

/-- The document of a variant table. -/
def toDocument (table : VariantTable) : Document :=
  .record [("variants", .array (table.variants.map fun (name, weight) =>
    .array [.text name, .number (toString weight.toNat)]))]

/-- A variant and its weight. -/
def shareOfDocument? : Document → Option (String × UInt32)
  | .array [name, weight] => do
    some (← name.text?, UInt32.ofNat (← (← weight.number?).toNatBelow? UInt32.size))
  | _ => none

/-- **The variant table of a document**, unchecked. -/
def ofDocument? (document : Document) : Option VariantTable := do
  let [variants] ← document.fields? ["variants"] | none
  match ← variants with
  | .array items => do some ⟨← items.mapM shareOfDocument?⟩
  | _ => none

end VariantTable

end FeatureGate
