import FeatureGate.Store.Recording

/-!
# The gated store

A wrapper for rehearsing races of first writes. Its first `n` reads are held at
a gate until `n` of them have read, so all `n` readers see what was stored
before any of them goes on to write. The gate orders readers in time; what a
read answers, and which reads pass to the store inside, is the same with or
without waiting. What is left of it here is the count of reads still to be
gated.

A batched read is not passed on: it is made of one read for every pair.
-/

namespace FeatureGate.Store

/-- The reads still to be gated, and the state of the store inside. -/
structure Gate (σ : Type) where
  /-- How many reads are still to be gated. -/
  remaining : Nat
  /-- The state of the store inside. -/
  inner : σ

/-- Pass a call on through the gate. -/
def Gate.pass {σ : Type} (store : Store (StateM σ)) (call : Call) :
    StateM (Gate σ) call.Reply := fun gate =>
  let answered := (store.call call).run gate.inner
  (answered.1, { gate with inner := answered.2 })

/-- A read through the gate: it takes one of the places left. -/
def Gate.read {σ : Type} (store : Store (StateM σ)) (feature key : String) :
    StateM (Gate σ) (Except StoreError (Option Payload)) := do
  modify fun gate => { gate with remaining := gate.remaining - 1 }
  Gate.pass store (.get feature key)

/-- **A store whose first reads are gated.** -/
def gated {σ : Type} (store : Store (StateM σ)) : Store (StateM (Gate σ)) where
  kind := store.kind
  call
    | .get feature key => Gate.read store feature key
    | .getMany pairs => readEach (Gate.read store) pairs
    | call => Gate.pass store call

end FeatureGate.Store
