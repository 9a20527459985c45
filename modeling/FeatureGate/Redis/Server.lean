import Std.Data.ExtTreeMap.Lemmas
import FeatureGate.Redis.Command

/-!
# A model of a Redis server

The server holds keys, each with a hash or a plain text. A hash whose last
field goes, goes too. Keys are listed whatever they hold. How they are listed is
left open, for servers may list them in any order and more than once; one way is
in pages of the keys that match (`Listing.paged`).

Errors can be lined up: each makes one command fail that would otherwise have
been carried out. What has to do with the server lacking the script for
overwriting stays out of this: neither loading the script nor running it in vain
counts as a command carried out.
-/

namespace FeatureGate.Redis

/-- What a key holds. -/
inductive Entry where
  /-- A hash: texts by field. -/
  | hash (fields : Std.ExtTreeMap String String)
  /-- A plain text. -/
  | plain

namespace Entry

/-- The fields of a hash. -/
def fields? : Entry → Option (Std.ExtTreeMap String String)
  | hash fields => some fields
  | plain => none

end Entry

/-- **The contents of a server**: what the keys hold. -/
abbrev Contents := Std.ExtTreeMap String Entry

namespace Contents

/-- The fields of the hash of a key, which is empty if there is no such key;
none if the key holds a plain text. -/
def fields? (contents : Contents) (key : String) : Option (Std.ExtTreeMap String String) :=
  match contents[key]? with
  | some entry => entry.fields?
  | none => some ∅

/-- Let a key hold a hash, or nothing if the hash is empty. -/
def put (contents : Contents) (key : String) (fields : Std.ExtTreeMap String String) :
    Contents :=
  if fields.isEmpty then contents.erase key else contents.insert key (.hash fields)

/-- Write a field, in place of a plain text if there is one. -/
def putField (contents : Contents) (key field value : String) : Contents :=
  contents.put key (((contents.fields? key).getD ∅).insert field value)

/-- The hashes, by key. -/
def hashes (contents : Contents) : List (String × Std.ExtTreeMap String String) :=
  contents.toList.filterMap fun (key, entry) => entry.fields?.map (key, ·)

end Contents

/-- **How a server lists its keys**: what a round answers, given all keys in
increasing order, a cursor and a pattern. It is the cursor of the next round,
which is zero if there is none, and some of the keys. -/
structure Listing where
  /-- A round. -/
  round (keys : List String) (cursor : Nat) (pattern : String) : Nat × List String

/-- **Listing in pages** of the keys that match. A page comes backwards; it may
begin with the last key of the page before it. -/
def Listing.paged (page : Nat) (repeats : Bool) (isMatch : (pattern key : String) → Bool) :
    Listing where
  round keys cursor pattern :=
    let found := keys.filter (isMatch pattern)
    let start := if repeats then cursor - 1 else cursor
    let stop := cursor + page
    (if stop < found.length then stop else 0, ((found.take stop).drop start).reverse)

/-- The error of a command on a hash, for a key that holds a plain text. -/
def wrongType : String :=
  "WRONGTYPE Operation against a key holding the wrong kind of value"

/-- **What a server answers** to a command, and its contents then. -/
def Contents.answer (listing : Listing) (contents : Contents) :
    (command : Command) → command.Reply × Contents
  | .get key field =>
    match contents.fields? key with
    | some fields => (.ok fields[field]?, contents)
    | none => (.error wrongType, contents)
  | .setNew key field value =>
    match contents.fields? key with
    | some fields =>
      if fields.contains field then (.ok false, contents)
      else (.ok true, contents.put key (fields.insert field value))
    | none => (.error wrongType, contents)
  | .set key field value =>
    match contents.fields? key with
    | some fields => (.ok (), contents.put key (fields.insert field value))
    | none => (.error wrongType, contents)
  | .removeField key field =>
    match contents.fields? key with
    | some fields => (.ok (), contents.put key (fields.erase field))
    | none => (.error wrongType, contents)
  | .remove keys => (.ok (), keys.foldl (fun contents key => contents.erase key) contents)
  | .setAll key value =>
    match contents.fields? key with
    | some fields => (.ok (), contents.put key (fields.map fun _ _ => value))
    | none => (.error wrongType, contents)
  | .loadScript => (.ok (), contents)
  | .scan cursor pattern _ => (.ok (listing.round contents.keys cursor pattern), contents)

/-- **A server**: its contents, the commands it carried out or refused since they
were last looked at, the errors lined up, and whether it has the script. -/
structure Server where
  /-- The contents. -/
  contents : Contents
  /-- The commands, oldest first. -/
  received : List Command
  /-- The errors lined up, oldest first. -/
  errors : List String
  /-- Whether it has the script for overwriting. -/
  hasScript : Bool

namespace Server

/-- A server with some contents. -/
def holding (contents : Contents) : Server := ⟨contents, [], [], false⟩

/-- The error of a server that lacks the script. -/
def noScript : String := noScriptCode ++ " No matching script. Please use EVAL."

/-- Carry out a command, unless an error is lined up. -/
def carryOut (listing : Listing) (command : Command) :
    StateM Server command.Reply := fun server =>
  let received := server.received ++ [command]
  match server.errors with
  | error :: errors => (.error error, { server with received, errors })
  | [] =>
    let answered := server.contents.answer listing command
    (answered.1, { server with received, contents := answered.2 })

/-- **Answer a command.** -/
def answer (listing : Listing) : (command : Command) → StateM Server command.Reply
  | .loadScript => fun server => (.ok (), { server with hasScript := true })
  | .setAll key value => fun server =>
    if server.hasScript then carryOut listing (.setAll key value) server
    else (.error noScript, server)
  | command => carryOut listing command

/-- Line up an error a number of times. -/
def lineUp (server : Server) (error : String) (times : Nat) : Server :=
  { server with errors := server.errors ++ List.replicate times error }

end Server

end FeatureGate.Redis
