import Std.Data.ExtTreeMap.Lemmas
import FeatureGate.Error
import FeatureGate.Value

/-!
# Evaluation contexts

A context says for whom a feature is resolved: an identity, and optionally a
scope – a kind with constraints, such as the tenant at hand. A context without
a scope of its own takes the ambient one of the resolver.

Constraints are a finite map, so the order in which they were added is
forgotten. A constraint with the value `null` is kept, but counts as undefined
where the key of the context is made.
-/

namespace FeatureGate

/-- **The identity of a context.** -/
inductive Identity where
  /-- Nobody in particular. -/
  | null
  /-- A plain text or number. -/
  | scalar (id : String)
  /-- A record of some kind with its primary key. -/
  | entity (kind key : String)
  /-- An identifier that a value made for itself. -/
  | custom (id : String)
deriving DecidableEq, Repr

/-- **A scope**: structured constraints attached to a context. -/
structure Scope where
  /-- What sort of scope it is. -/
  kind : String
  /-- The constraints by name. -/
  constraints : Std.ExtTreeMap String Json
deriving DecidableEq

namespace Scope

/-- A scope without constraints. -/
def ofKind (kind : String) : Scope := ⟨kind, ∅⟩

/-- The scope with one constraint added or replaced. -/
def constrain (scope : Scope) (name : String) (value : Json) : Scope :=
  { scope with constraints := scope.constraints.insert name value }

/-- **Equality of scopes** as settings: the same kind, and constraints of the
same names with equal values. -/
def equal (a b : Scope) : Bool :=
  a.kind == b.kind && Json.equalFields a.constraints.toList b.constraints.toList

end Scope

/-- **A context** for which features are resolved. -/
structure Context where
  /-- Whom the context stands for. -/
  identity : Identity
  /-- The scope of the context itself. -/
  scope : Option Scope
deriving DecidableEq

namespace Context

/-- The kind of the entities that stand for groups. -/
def groupKind : String := "group"

/-- The context of nobody in particular. -/
def null : Context := ⟨.null, none⟩

/-- The context of a plain identifier. -/
def scalar (id : String) : Context := ⟨.scalar id, none⟩

/-- The context of a record. -/
def entity (kind key : String) : Context := ⟨.entity kind key, none⟩

/-- The context that stands for a whole group. -/
def group (name : String) : Context := entity groupKind name

/-- The context with a scope of its own. -/
def inScope (context : Context) (scope : Scope) : Context :=
  { context with scope := some scope }

/-- The context without a scope of its own. -/
def withoutScope (context : Context) : Context :=
  { context with scope := none }

/-- Whether the context is that of nobody. -/
def isNull (context : Context) : Bool := context.identity == .null

/-- **The context of a value's own identifier**, which may not be empty. -/
def ofIdentifier (id : String) : Except FeatureError Context :=
  if id.isEmpty then
    .error (.unserializableContext "serializable context produced an empty identifier")
  else .ok ⟨.custom id, none⟩

/-- **The context of a loosely typed value.** Only `null`, texts and numbers
have a stable identity. -/
def ofJson : Json → Except FeatureError Context
  | .null => .ok null
  | .string id => .ok (scalar id)
  | .number id => .ok (scalar id.text)
  | .bool value =>
    .error (.unserializableContext ("boolean `" ++ toString value ++ "` has no identity"))
  | .array _ => .error (.unserializableContext "arrays have no stable identity")
  | .object _ =>
    .error (.unserializableContext "objects without identity cannot be serialized")

/-- **Equality of contexts**: the same identity, and equal scopes or none. -/
def equal (a b : Context) : Bool :=
  a.identity == b.identity &&
    match a.scope, b.scope with
    | some s, some t => s.equal t
    | none, none => true
    | _, _ => false

end Context

end FeatureGate
