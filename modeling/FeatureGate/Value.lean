import FeatureGate.Json.Record

/-!
# Feature values

What a feature comes out as for one context: active with a payload, explicitly
inactive, or undefined because nobody ever defined or stored it. Payloads come
from definitions and stores; `false` and `null` mean inactive there, and any
other payload – zero and the empty text included – is an active value.
-/

namespace FeatureGate

/-- **The value of a feature for one context.** -/
inductive FeatureValue where
  /-- The feature is on, with its payload. -/
  | active (payload : Payload)
  /-- The feature is off. -/
  | inactive
  /-- The feature was neither defined nor stored. -/
  | undefined
deriving DecidableEq, Repr

namespace FeatureValue

instance : Inhabited FeatureValue := ⟨.undefined⟩

/-- **The value of a payload**: `false` and `null` are inactive. -/
def ofPayload : Payload → FeatureValue
  | .null => .inactive
  | .bool false => .inactive
  | payload => .active payload

theorem ofPayload_eq_active {payload : Payload} (hnull : payload ≠ .null)
    (hfalse : payload ≠ .bool false) : ofPayload payload = .active payload := by
  unfold ofPayload
  split
  · exact absurd rfl hnull
  · exact absurd rfl hfalse
  · rfl

/-- The value of a switch. -/
def ofBool (on : Bool) : FeatureValue :=
  if on then .active (.bool true) else .inactive

/-- Active with the payload `true`. -/
def on : FeatureValue := .active (.bool true)

/-- Whether the feature is on. -/
def isActive : FeatureValue → Bool
  | .active _ => true
  | _ => false

/-- Whether the feature is not on; an undefined feature is not. -/
def isInactive (value : FeatureValue) : Bool := !value.isActive

/-- Whether the feature was never defined nor stored. -/
def isUndefined : FeatureValue → Bool
  | .undefined => true
  | _ => false

/-- The payload of an active value. -/
def payload? : FeatureValue → Option Payload
  | .active payload => some payload
  | _ => none

/-- The text of an active value that carries one. -/
def text? (value : FeatureValue) : Option String :=
  value.payload?.bind Json.string?

/-- The payload to store for a value; nothing is stored for an undefined
one. -/
def stored? : FeatureValue → Option Payload
  | .active payload => some payload
  | .inactive => some (.bool false)
  | .undefined => none

/-! ## Written form -/

/-- The name of a state. -/
def state : FeatureValue → String
  | .active _ => "active"
  | .inactive => "inactive"
  | .undefined => "undefined"

/-- **The document of a value**: its state, and the payload of an active
one. -/
def toDocument : FeatureValue → Json.Document
  | .active payload =>
    .record [("state", .text "active"), ("payload", .ofJson payload)]
  | value => .record [("state", .text value.state)]

/-- **The JSON value of a value**: it says what the document says, with the
payload as it is. -/
def toJson : FeatureValue → Json
  | .active payload => .ofFields [("state", .string "active"), ("payload", payload)]
  | value => .ofFields [("state", .string value.state)]

/-- The state named in a record: a text. Only as the field of an object it may
also be the name of a one-field object with the value `null`. -/
def stateName? (record state : Json.Document) : Option String :=
  match record, state.choice? with
  | .object _, some (name, content) => if content.isNull then some name else none
  | _, _ => state.text?

/-- **The value of a document.** An active value needs a payload; the others
allow `null` for one. -/
def ofDocument? (document : Json.Document) : Option FeatureValue := do
  let [state, payload] ← document.fields? ["state", "payload"] | none
  match ← stateName? document (← state) with
  | "active" => (← payload).toJson? (Json.depthLimit - 1) |>.map .active
  | "inactive" => if payload.all (·.isNull) then some .inactive else none
  | "undefined" => if payload.all (·.isNull) then some .undefined else none
  | _ => none

end FeatureValue

end FeatureGate
