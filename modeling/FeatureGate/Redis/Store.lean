import Std.Data.ExtTreeSet.Lemmas
import FeatureGate.Json.Parser
import FeatureGate.Redis.Command
import FeatureGate.Store.Call

/-!
# The store on a Redis server

The rows of a feature are a hash, whose key is the name of the feature after a
prefix and a colon, and whose fields are the context keys. Payloads are stored
as JSON texts. First writes rely on the server to refuse a field that exists. A
server that lacks the script for overwriting is given it, and asked once more.

What the store does is a program of commands, whatever answers them. A listing
of all keys under the prefix goes in rounds until the server ends it; how many
rounds the store waits for is part of the connection. The features that have
rows cannot be listed.
-/

namespace FeatureGate.Redis

/-- **A connection to a server**, as a store uses it. -/
structure Connection where
  /-- What the keys of the store begin with. -/
  keyPrefix : String
  /-- How many rounds of a listing the store waits for. -/
  rounds : Nat

/-- A conversation with a server. -/
abbrev Conversation := ExceptT StoreError (Program interface)

/-- Send a command; an error in reply is a failure of the store. -/
def send (command : Command) : Conversation command.Answer := do
  match ← ExceptT.lift (Program.request (I := interface) command) with
  | .ok answer => return answer
  | .error text => throw (.server text)

/-- **Overwrite every field of a hash.** -/
def overwrite (key value : String) : Conversation Unit := do
  match ← ExceptT.lift (Program.request (I := interface) (.setAll key value)) with
  | .ok answer => return answer
  | .error text =>
    if lacksScript text then
      send .loadScript
      send (.setAll key value)
    else throw (.server text)

/-- **The payload of a stored text.** -/
def decode (raw : String) : Except StoreError Payload :=
  match Json.parse? raw with
  | some payload => .ok payload
  | none => .error (.serialization "the stored text is no JSON value")

/-- The payload of a field, if there is one. -/
def decodeField : Except String (Option String) → Except StoreError (Option Payload)
  | .error text => .error (.server text)
  | .ok none => .ok none
  | .ok (some raw) => (decode raw).map some

/-- The text a payload is stored as. -/
def encode (payload : Payload) : String := payload.render

namespace Connection

/-- The key of a feature. -/
def key (connection : Connection) (feature : String) : String :=
  connection.keyPrefix ++ ":" ++ feature

/-- The pattern of the keys under the prefix. -/
def pattern (connection : Connection) : String := connection.keyPrefix ++ ":*"

/-- How many keys a round of a listing is asked for. -/
def roundSize : Nat := 100

/-- **List the keys under the prefix**, from a cursor on. -/
def listFrom (connection : Connection) : Nat → Nat → Conversation (List String)
  | 0, _ => throw (.server "the listing of keys did not end")
  | rounds + 1, cursor => do
    let (next, keys) ← send (.scan cursor connection.pattern roundSize)
    if next = 0 then return keys
    else return keys ++ (← listFrom connection rounds next)

/-- The keys under the prefix, each once, in increasing order. -/
def listKeys (connection : Connection) : Conversation (List String) := do
  return (Std.ExtTreeSet.ofList (← connection.listFrom connection.rounds 0)).toList

/-- Remove keys, if there are any. -/
def removeKeys (keys : List String) : Conversation Unit := do
  if !keys.isEmpty then send (.remove keys)

/-- The replies to reads of fields, all of which are sent before any reply is
looked at. -/
def readFields (connection : Connection) :
    List (String × String) → Program interface (List (Except String (Option String)))
  | [] => return []
  | (feature, field) :: rest => do
    let reply ← Program.request (I := interface) (.get (connection.key feature) field)
    return reply :: (← connection.readFields rest)

/-- **What the store does** to answer a call. -/
def converse (connection : Connection) : (call : Store.Call) → Conversation call.Answer
  | .get feature key => do
    let raw ← send (.get (connection.key feature) key)
    ExceptT.mk (return decodeField (.ok raw))
  | .getMany pairs => do
    let replies ← ExceptT.lift (connection.readFields pairs)
    ExceptT.mk (return replies.mapM decodeField)
  | .insert feature key value => do
    if ← send (.setNew (connection.key feature) key (encode value)) then return
    else throw (.conflict feature key)
  | .set feature key value => send (.set (connection.key feature) key (encode value))
  | .setForAll feature value => overwrite (connection.key feature) (encode value)
  | .delete feature key => send (.removeField (connection.key feature) key)
  | .purge (some features) => removeKeys (features.map connection.key)
  | .purge none => do removeKeys (← connection.listKeys)
  | .listStored => throw (.unsupported "list_stored" "redis")

/-- **The store of a connection**, given what answers its commands. -/
def store {m : Type → Type} [Monad m] (connection : Connection)
    (answer : (command : Command) → m command.Reply) : Store m where
  kind := "redis"
  call call := (ExceptT.run (connection.converse call)).interpret answer

end Connection

end FeatureGate.Redis
