import FeatureGate.Context.Document
import FeatureGate.Definition

/-!
# Closures at work

What the closures of definitions make of a context is not said by the
definitions, which hold handles only. A closure may look at the context it is
called for and at how often it was called before; there are some to rehearse
with: one that looks at the kind of an entity, one that gives back the context,
and one that counts its calls, so that it comes out differently each time.
-/

namespace FeatureGate

/-- **What a closure does**: what it makes of a context after a number of earlier
calls. -/
structure Computation where
  /-- The payload. -/
  result (context : Context) (earlier : Nat) : Payload

namespace Computation

/-- **A function of the context**: how often it was called makes no
difference. -/
def IsPure (computation : Computation) : Prop :=
  ∀ context m n, computation.result context m = computation.result context n

/-- Look the kind of an entity up in a table. There is a payload for the null
context, and one for what is no entity or not in the table. -/
def byKind (table : List (String × Payload)) (forNull otherwise : Payload) :
    Computation where
  result context _ :=
    match context.identity with
    | .null => forNull
    | .entity kind _ => (table.lookup kind).getD otherwise
    | _ => otherwise

/-- Give back the value of the context. -/
def echo : Computation where
  result context _ := context.toJson

/-- Count the calls: a label, followed by the number of earlier ones. -/
def counter (label : String) : Computation where
  result _ earlier := .string (label ++ toString earlier)

theorem isPure_byKind (table : List (String × Payload)) (forNull otherwise : Payload) :
    (byKind table forNull otherwise).IsPure := fun _ _ _ => rfl

theorem isPure_echo : echo.IsPure := fun _ _ _ => rfl

end Computation

/-- **The closures that are defined**, each with the number of its calls; a
handle is a position. -/
structure Closures where
  /-- What the closures do, and how often they were called. -/
  entries : List (Computation × Nat)

namespace Closures

/-- No closures. -/
def empty : Closures := ⟨[]⟩

instance : Inhabited Closures := ⟨empty⟩

/-- A new closure: its handle, and the closures with it. -/
def add (closures : Closures) (computation : Computation) : Closure × Closures :=
  (⟨closures.entries.length⟩, ⟨closures.entries ++ [(computation, 0)]⟩)

/-- **Call a closure.** A handle of no closure comes out as `null`. -/
def call (closures : Closures) (closure : Closure) (context : Context) :
    Payload × Closures :=
  match closures.entries[closure.id]? with
  | some (computation, calls) =>
    (computation.result context calls,
      ⟨closures.entries.set closure.id (computation, calls + 1)⟩)
  | none => (.null, closures)

/-- **The first payload of a definition** for a context with a key. -/
def firstPayload (closures : Closures) (definition : Definition) (context : Context)
    (key : String) : Payload × Closures :=
  match definition.firstPayload key with
  | .inl closure => closures.call closure context
  | .inr payload => (payload, closures)

end Closures

end FeatureGate
