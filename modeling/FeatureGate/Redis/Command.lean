import FeatureGate.Program

/-!
# Commands of a Redis server

The commands that a store of features needs. A key of the server holds a hash,
a finite map from fields to texts; the commands on one hash are atomic. Keys
are listed in rounds: each answers some keys that match a pattern and a cursor
for the next round, and the cursor zero ends the listing. A server may answer
any command with an error.

Overwriting a hash is a script. A server that has it runs it by its name; one
that has not answers with an error, and has to be given the script first.
-/

namespace FeatureGate.Redis

/-- **A command.** -/
inductive Command where
  /-- Read a field of a hash. -/
  | get (key field : String)
  /-- Write a field of a hash that does not exist yet. -/
  | setNew (key field value : String)
  /-- Write a field of a hash. -/
  | set (key field value : String)
  /-- Remove a field of a hash. -/
  | removeField (key field : String)
  /-- Remove keys with all they hold. -/
  | remove (keys : List String)
  /-- Overwrite every field that a hash has, by the script for it. -/
  | setAll (key value : String)
  /-- Take the script for overwriting. -/
  | loadScript
  /-- List keys that match a pattern, from a cursor on, about `count` of them. -/
  | scan (cursor : Nat) (pattern : String) (count : Nat)
deriving DecidableEq, Repr

namespace Command

/-- What a command that succeeds answers. -/
abbrev Answer : Command → Type
  | get .. => Option String
  | setNew .. => Bool
  | scan .. => Nat × List String
  | _ => Unit

/-- What a command answers: it may be refused, with a text. -/
abbrev Reply (command : Command) : Type := Except String command.Answer

/-- **The words of a command**, as a server gets them. The script for overwriting
goes by a name here. -/
def words : Command → List String
  | get key field => ["HGET", key, field]
  | setNew key field value => ["HSETNX", key, field, value]
  | set key field value => ["HSET", key, field, value]
  | removeField key field => ["HDEL", key, field]
  | remove keys => "DEL" :: keys
  | setAll key value => ["SET_FOR_ALL", key, value]
  | loadScript => ["SCRIPT", "LOAD", "SET_FOR_ALL"]
  | scan cursor pattern count =>
    ["SCAN", toString cursor, "MATCH", pattern, "COUNT", toString count]

end Command

/-- The code of the error of a server that lacks a script. -/
def noScriptCode : String := "NOSCRIPT"

/-- Whether an error says that the server lacks a script: its code, the text up to
the first space, does. -/
def lacksScript (error : String) : Bool :=
  error.toList.takeWhile (· ≠ ' ') = noScriptCode.toList

/-- A server, as a store sees it. -/
def interface : Interface := ⟨Command, Command.Reply⟩

end FeatureGate.Redis
