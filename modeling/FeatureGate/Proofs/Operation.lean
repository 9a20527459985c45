import FeatureGate.Proofs.Running
import FeatureGate.Resolver.Define
import FeatureGate.Resolver.Load
import FeatureGate.Resolver.Write

/-!
# Operations and their runs

The operations of a resolver as data, so that statements can be made about all
sequences of them. Each has an answer of its own type (`Operation.Answer`) and
is an action of the resolver (`Operation.action`).

A sequence of operations leaves a trace: what each of them answered, and the
rows after it (`Operation.trace`).
-/

namespace FeatureGate.Resolver

open Store (Rows)

/-- **An operation of a resolver**, with what it is given. -/
inductive Operation where
  /-- Register a definition. -/
  | define (definition : Definition)
  /-- Register a variant feature. -/
  | defineVariant (feature : String) (weights : List (String × UInt32))
  /-- Store a value for one context. -/
  | set (feature : String) (context : Context) (value : Payload)
  /-- Switch a feature on for one context. -/
  | activate (feature : String) (context : Context)
  /-- Switch a feature off for one context. -/
  | deactivate (feature : String) (context : Context)
  /-- Switch a feature on for a group. -/
  | activateForGroup (feature group : String)
  /-- Overwrite the stored value of every context. -/
  | setForAllContexts (feature : String) (value : Payload)
  /-- Remove the stored value of one context. -/
  | delete (feature : String) (context : Context)
  /-- Remove the stored values of the features listed, or of all. -/
  | purge (features : Option (List String))
  /-- Remove the stored values of the features that have expired. -/
  | purgeExpired
  /-- Resolve a feature. -/
  | resolve (feature : String) (context : Context)
  /-- The variant of a feature. -/
  | resolveVariant (feature : String) (context : Context)
  /-- The values of the features listed. -/
  | values (features : List String) (context : Context)
  /-- The values of all defined features. -/
  | all (context : Context)
  /-- Whether all features listed are active. -/
  | allAreActive (features : List String) (context : Context)
  /-- Whether one of the features listed is active. -/
  | someAreActive (features : List String) (context : Context)
  /-- Load values into the cache. -/
  | load (features : List String) (contexts : List Context)
  /-- The names of the features that have stored values. -/
  | stored
  /-- Change the ambient scope. -/
  | setAmbientScope (scope : Option Scope)
  /-- Forget every value resolved so far. -/
  | flushCache

namespace Operation

/-- What an operation answers if it succeeds. -/
abbrev Answer : Operation → Type
  | purgeExpired | stored => List String
  | resolve .. => FeatureValue
  | resolveVariant .. => String
  | values .. | all _ => Std.ExtTreeMap String FeatureValue
  | allAreActive .. | someAreActive .. => Bool
  | _ => Unit

/-- **What a resolver does** when asked for an operation. -/
def action (resolver : Resolver) : (op : Operation) → Action op.Answer
  | define definition => resolver.define definition
  | defineVariant feature weights => resolver.defineVariant feature weights
  | set feature context value => resolver.set feature context value
  | activate feature context => resolver.activate feature context
  | deactivate feature context => resolver.deactivate feature context
  | activateForGroup feature group => resolver.activateForGroup feature group
  | setForAllContexts feature value => resolver.setForAllContexts feature value
  | delete feature context => resolver.delete feature context
  | purge features => resolver.purge features
  | purgeExpired => resolver.purgeExpired
  | resolve feature context => resolver.resolve feature context
  | resolveVariant feature context => resolver.resolveVariant feature context
  | values features context => resolver.values features context
  | all context => resolver.all context
  | allAreActive features context => resolver.allAreActive features context
  | someAreActive features context => resolver.someAreActive features context
  | load features contexts => resolver.load features contexts
  | stored => Resolver.stored
  | setAmbientScope scope => Resolver.setAmbientScope scope
  | flushCache => Resolver.flushCache

/-- The contexts that an operation resolves features for. -/
def contexts : Operation → List Context
  | resolve _ context | resolveVariant _ context | values _ context | all context
  | allAreActive _ context | someAreActive _ context => [context]
  | load _ contexts => contexts
  | _ => []

/-- **What is seen of an operation**: its answer or error, and the rows after
it. -/
structure Outcome where
  /-- The operation. -/
  op : Operation
  /-- Its answer, or its error. -/
  result : Except FeatureError op.Answer
  /-- The rows after it. -/
  rows : Rows

variable (resolver : Resolver) (membership : Membership)

/-- Run an operation over a store in memory. -/
def run (op : Operation) (s : State Rows) : Except FeatureError op.Answer × State Rows :=
  (op.action resolver).perform Store.memory membership s

/-- **The trace of a sequence of operations**, if the state is prepared in some
way before each of them. -/
def trace (prepare : State Rows → State Rows) : List Operation → State Rows → List Outcome
  | [], _ => []
  | op :: rest, s =>
    let ran := op.run resolver membership (prepare s)
    ⟨op, ran.1, ran.2.world.store⟩ :: trace prepare rest ran.2

end Operation

end FeatureGate.Resolver
