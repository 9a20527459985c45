/-!
# Errors

Everything that can go wrong, by its cause. `StoreError` is what a store
answers; `FeatureError` is what the operations of a resolver answer, store
errors included. The wording is apart from the cause, in `message`.

Configuration errors arise where a definition is registered or a resolver is
built, never while a feature is being resolved.
-/

namespace FeatureGate

/-- **What a store answers when it fails.** -/
inductive StoreError where
  /-- A first write found a row for the feature and key. -/
  | conflict (feature key : String)
  /-- The store has no such operation. -/
  | unsupported (operation store : String)
  /-- The backend failed. -/
  | backend (text : String)
  /-- A stored value could not be written or read back. -/
  | serialization (text : String)
  /-- The connection to the server failed, or the server answered with an
  error. -/
  | server (text : String)
deriving DecidableEq, Repr

namespace StoreError

/-- The wording of a store error. -/
def message : StoreError → String
  | conflict feature key =>
    "Value for '" ++ feature ++ "' already stored for '" ++ key ++ "'"
  | unsupported operation store =>
    "Operation '" ++ operation ++ "' is not supported by the " ++ store ++ " store"
  | backend text => "Feature store error: " ++ text
  | serialization text => "Serialization error: " ++ text
  | server text => "Redis error: " ++ text

/-- Whether a first write lost against another. -/
def isConflict : StoreError → Bool
  | conflict .. => true
  | _ => false

/-- Whether the store lacks the operation. -/
def isUnsupported : StoreError → Bool
  | unsupported .. => true
  | _ => false

end StoreError

/-- What is wrong with a configuration. -/
inductive ConfigFault where
  /-- A fault that is told in words. -/
  | stated (text : String)
  /-- The text is no document of the configuration language, or a setting has a
  value of the wrong type. -/
  | document
deriving DecidableEq, Repr

/-- **What the operations of a resolver answer when they fail.** -/
inductive FeatureError where
  /-- The variant table of a feature is empty, repeats a name or does not sum
  to a hundred. -/
  | invalidVariantWeights (feature reason : String)
  /-- A rollout percentage is above a hundred. -/
  | invalidPercentage (feature : String) (percentage : UInt8)
  /-- Two entity kinds would be stored under one name. -/
  | conflictingKeyMapping (text : String)
  /-- Any other fault of a configuration or a definition. -/
  | config (fault : ConfigFault)
  /-- A value has no stable identity to be a context. -/
  | unserializableContext (text : String)
  /-- No context was given and there is no default one. -/
  | missingContext
  /-- The feature has no variant table. -/
  | notAVariant (feature : String)
  /-- The feature is inactive, or holds something that is no variant. -/
  | variantUnavailable (feature : String)
  /-- The store failed. -/
  | store (error : StoreError)
deriving DecidableEq, Repr

namespace FeatureError

/-- A fault of a configuration or a definition, told in words. -/
abbrev configStated (text : String) : FeatureError := .config (.stated text)

/-- The wording of an error. -/
def message : FeatureError → String
  | invalidVariantWeights feature reason =>
    "Invalid variant weights for '" ++ feature ++ "': " ++ reason
  | invalidPercentage feature percentage =>
    "Invalid rollout percentage for '" ++ feature ++ "': " ++ toString percentage.toNat
  | conflictingKeyMapping text => "Conflicting key mapping: " ++ text
  | config (.stated text) => "Configuration error: " ++ text
  | config .document => "Configuration error: not a valid configuration document"
  | unserializableContext text => "Unserializable context: " ++ text
  | missingContext => "No evaluation context available"
  | notAVariant feature => "Feature '" ++ feature ++ "' is not a variant feature"
  | variantUnavailable feature => "No variant available for feature '" ++ feature ++ "'"
  | store error => error.message

/-- Whether the error comes from a definition or a configuration. -/
def isConfiguration : FeatureError → Bool
  | invalidVariantWeights .. | invalidPercentage .. | conflictingKeyMapping _
  | config _ => true
  | _ => false

/-- Whether the error says that a context has no identity. -/
def isIdentity : FeatureError → Bool
  | unserializableContext _ | missingContext => true
  | _ => false

/-- Whether the store lacks the operation. -/
def isUnsupported : FeatureError → Bool
  | store error => error.isUnsupported
  | _ => false

/-- Whether a first write in the store lost against another. -/
def isConflict : FeatureError → Bool
  | store error => error.isConflict
  | _ => false

end FeatureError

end FeatureGate
