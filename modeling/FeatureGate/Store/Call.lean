import FeatureGate.Error
import FeatureGate.Program
import FeatureGate.Json.Basic

/-!
# Stores

A store keeps payloads in rows, one for a feature and a context key. An
undefined value is the absence of a row. The contract is an interface
(`Store.interface`): eight calls, each of which may fail.

A first write (`insert`) fails when the row exists; that is how two first
writes of the same row are told apart.

A `Store m` answers the calls in a monad `m`. Stores that wrap another one
differ from it in a few calls only, and share the rule on how many pairs are
read at once (`readEach`).
-/

namespace FeatureGate.Store

/-- **The calls of a store.** -/
inductive Call where
  /-- Read one row. -/
  | get (feature key : String)
  /-- Read many rows; the payloads come in the order of the pairs. -/
  | getMany (pairs : List (String × String))
  /-- Write a row that does not exist yet. -/
  | insert (feature key : String) (value : Payload)
  /-- Write a row whether it exists or not. -/
  | set (feature key : String) (value : Payload)
  /-- Overwrite every row of a feature. -/
  | setForAll (feature : String) (value : Payload)
  /-- Remove a row if it exists. -/
  | delete (feature key : String)
  /-- Remove every row of the features listed, or of all features. -/
  | purge (features : Option (List String))
  /-- The names of the features that have rows. -/
  | listStored
deriving DecidableEq

namespace Call

/-- What a call that succeeds answers. -/
abbrev Answer : Call → Type
  | get .. => Option Payload
  | getMany _ => List (Option Payload)
  | listStored => List String
  | _ => Unit

/-- What a call answers: it may fail. -/
abbrev Reply (call : Call) : Type := Except StoreError call.Answer

/-- The name of the operation. -/
def operation : Call → String
  | get .. => "get"
  | getMany _ => "get_many"
  | insert .. => "insert"
  | set .. => "set"
  | setForAll .. => "set_for_all"
  | delete .. => "delete"
  | purge _ => "purge"
  | listStored => "list_stored"

end Call

/-- The interface of a store. -/
def interface : Interface := ⟨Call, Call.Reply⟩

end Store

/-- **A store** that answers in a monad. -/
structure Store (m : Type → Type) where
  /-- The name of the sort of store. -/
  kind : String
  /-- Answer a call. -/
  call : (call : Store.Call) → m call.Reply

namespace Store

variable {m : Type → Type} [Monad m]

/-- **Read pairs one after another**, in order; the first failure ends it. -/
def readEach (get : (feature key : String) → m (Except StoreError (Option Payload))) :
    List (String × String) → m (Except StoreError (List (Option Payload)))
  | [] => return .ok []
  | (feature, key) :: rest => do
    match ← get feature key with
    | .error error => return .error error
    | .ok value =>
      match ← readEach get rest with
      | .error error => return .error error
      | .ok values => return .ok (value :: values)

/-- **A store whose state is part of a larger one**, given how to get at the part
and how to put it back. -/
def inside {σ τ : Type} (store : Store (StateM σ)) (part : τ → σ) (replace : τ → σ → τ) :
    Store (StateM τ) where
  kind := store.kind
  call call := fun whole =>
    let answered := (store.call call).run (part whole)
    (answered.1, replace whole answered.2)

end Store

end FeatureGate
