import FeatureGate.Config.Basic
import FeatureGate.Toml.Parser

/-!
# Configuration files

A configuration may be written as a TOML document, with a key for each setting;
the aliases of entity kinds are a table. Settings that are missing have their
standard values, and keys nobody knows are passed over. The document as a whole
has to be well-formed and every setting has to be of its type before a range is
looked at.
-/

namespace FeatureGate.Config

open Toml (Item)

/-- The text of an item. -/
def textOf? : Item → Option String
  | .text value => some value
  | _ => none

/-- The truth value of an item. -/
def booleanOf? : Item → Option Bool
  | .boolean value => some value
  | _ => none

/-- The number of days of an item. -/
def daysOf? : Item → Option Int
  | .integer value => if isWord value then some value else none
  | _ => none

/-- The aliases of an item: a table of texts. -/
def aliasesOf? (item : Item) : Option (Std.ExtTreeMap String String) := do
  (← item.entries?).foldlM (fun aliases (kind, item) =>
    (textOf? item).map (aliases.insert kind)) ∅

/-- A setting: what its key stands for, or the standard value. -/
def setting {α : Type} (entries : Toml.Entries) (key : String) (read : Item → Option α)
    (standard : α) : Option α :=
  match entries.get? key with
  | some item => read item
  | none => some standard

/-- The configuration that the entries of a document make. -/
def ofEntries? (entries : Toml.Entries) : Option Config := do
  return {
    keyPrefix := ← setting entries "store_key_prefix" textOf? standard.keyPrefix
    entityAliases := ← setting entries "entity_aliases" aliasesOf? standard.entityAliases
    warningDays := ← setting entries "expiring_soon_warning_days"
      (fun item => (daysOf? item).map some) standard.warningDays
    emitEvents := ← setting entries "emit_events" booleanOf? standard.emitEvents }

/-- The error that a fault of a document is. -/
def documentError : Toml.Fault → FeatureError
  | .malformed => .config .document
  | .tooDeep => .configStated "recursion limit\n"

/-- **The configuration of a document**, checked. -/
def ofDocument (text : String) : Except FeatureError Config :=
  match Toml.parse text with
  | .ok entries => match ofEntries? entries with
    | some config => do
      config.validate
      return config
    | none => .error (.config .document)
  | .error fault => .error (documentError fault)

/-- What keeps a file from being read as a text. -/
inductive FileFault where
  /-- There is no such file. -/
  | missing
  /-- The bytes are no UTF-8 text. -/
  | notText
deriving DecidableEq, Repr

/-- The wording of a fault of a file. -/
def FileFault.message : FileFault → String
  | missing => "No such file or directory (os error 2)"
  | notText => "stream did not contain valid UTF-8"

/-- The text of a file with given bytes, if there is one. -/
def fileText : Option ByteArray → Except FileFault String
  | none => .error .missing
  | some bytes => match String.fromUTF8? bytes with
    | some text => .ok text
    | none => .error .notText

/-- **The configuration of a file**, given its path and its bytes, if it
exists. -/
def ofFile (path : String) (content : Option ByteArray) : Except FeatureError Config :=
  match fileText content with
  | .ok text => ofDocument text
  | .error fault => .error (.configStated ("cannot read " ++ path ++ ": " ++ fault.message))

end FeatureGate.Config
