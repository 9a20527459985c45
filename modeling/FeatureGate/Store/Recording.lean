import FeatureGate.Store.Memory
import FeatureGate.Text.Blank

/-!
# The recording store

A wrapper that notes every call before it passes it on, so calls that fail are
noted too. A call is noted as a text: the operation, the feature and the key,
separated by spaces, with blanks at the end cut off. A batched read is noted by
the number of its pairs, a purge by the names it covers.

A batched read is passed on as one call; the reads it is made of are not noted.
-/

namespace FeatureGate.Store

/-- What stands for the feature in the text of a call. -/
def Call.subject : Call → String
  | .get feature _ | .insert feature _ _ | .set feature _ _ | .setForAll feature _
  | .delete feature _ => feature
  | .getMany pairs => toString pairs.length
  | .purge (some features) => String.intercalate "," features
  | .purge none => "*"
  | .listStored => ""

/-- What stands for the key in the text of a call. -/
def Call.keyText : Call → String
  | .get _ key | .insert _ key _ | .set _ key _ | .delete _ key => key
  | _ => ""

/-- A call as it is looked for: operation, feature and key. -/
def callText (operation feature key : String) : String :=
  operation ++ " " ++ feature ++ " " ++ key

/-- **The text a call is noted as.** -/
def Call.text (call : Call) : String :=
  Text.trimEnd (callText call.operation call.subject call.keyText)

/-- The calls noted since the last clearing, oldest first, and the state of the
store inside. -/
structure Recorded (σ : Type) where
  /-- The texts of the calls. -/
  calls : List String
  /-- The state of the store inside. -/
  inner : σ

namespace Recorded

variable {σ : Type}

/-- How many calls of an operation were noted, told by the text before the
first space. -/
def callCount (recorded : Recorded σ) (operation : String) : Nat :=
  (recorded.calls.filter fun call =>
    call.toList.takeWhile (· ≠ ' ') = operation.toList).length

/-- How many calls were noted as exactly this operation, feature and key. -/
def callsFor (recorded : Recorded σ) (operation feature key : String) : Nat :=
  (recorded.calls.filter (· = callText operation feature key)).length

/-- How many calls were noted. -/
def totalCalls (recorded : Recorded σ) : Nat := recorded.calls.length

/-- Whether an operation was called. -/
def wasCalled (recorded : Recorded σ) (operation : String) : Bool :=
  0 < recorded.callCount operation

/-- Forget the calls noted. -/
def clear (recorded : Recorded σ) : Recorded σ := { recorded with calls := [] }

end Recorded

/-- **A store that notes its calls.** -/
def recording {σ : Type} (store : Store (StateM σ)) : Store (StateM (Recorded σ)) where
  kind := store.kind
  call call := fun recorded =>
    let answered := (store.call call).run recorded.inner
    (answered.1, ⟨recorded.calls ++ [call.text], answered.2⟩)

end FeatureGate.Store
