import FeatureGate.Context.Basic

/-!
# Context keys

Stores and caches know contexts by their key, a text made of the identity and
the scope. The characters that delimit the parts of a key are percent-encoded
inside the parts, so that an identifier that looks like a group or a scoped key
does not become one.

* nobody: `__flagpole_null__`;
* a plain or self-made identifier: the identifier, escaped;
* an entity: its kind, or the alias of the kind, and its key, joined by `|`;
* a scope: appended as `@kind` with the constraints in braces, sorted by name,
  each written `name=value` with the value as JSON text. Constraints with the
  value `null` are left out.

Entity kinds can be stored under aliases, so that renaming a kind does not
orphan what was stored.
-/

namespace FeatureGate

namespace Key

/-- The key of nobody. -/
def null : String := "__flagpole_null__"

/-- How a character is written inside a part of a key. -/
def escapeChar : Char → List Char
  | '%' => ['%', '2', '5']
  | '|' => ['%', '7', 'C']
  | '@' => ['%', '4', '0']
  | ';' => ['%', '3', 'B']
  | '=' => ['%', '3', 'D']
  | '\x7b' => ['%', '7', 'B']
  | '\x7d' => ['%', '7', 'D']
  | c => [c]

/-- A part of a key, with the delimiters percent-encoded. -/
def escape (part : String) : String :=
  String.ofList (part.toList.flatMap escapeChar)

end Key

/-- The constraints that count for the key, in increasing order of name. -/
def Scope.defined (scope : Scope) : List (String × Json) :=
  scope.constraints.toList.filter (!·.2.isNull)

/-- **The canonical text of a scope**, as it is appended to a key. -/
def Scope.suffix (scope : Scope) : String :=
  let pairs := scope.defined.map fun (name, value) => Key.escape name ++ "=" ++ value.render
  "@" ++ Key.escape scope.kind ++ "\x7b" ++ String.intercalate ";" pairs ++ "\x7d"

/-- **Aliases of entity kinds**: the kinds that are stored under another name. -/
structure Aliases where
  /-- The stored name by kind. -/
  stored : Std.ExtTreeMap String String
deriving DecidableEq

namespace Aliases

/-- No kind has an alias. -/
def none : Aliases := ⟨∅⟩

instance : Inhabited Aliases := ⟨none⟩

/-- The first fault of a list of kinds with their aliases, given the aliases
before it with their kinds: an empty alias, or one that another kind has. -/
def firstFault (owners : List (String × String)) : List (String × String) → Option String
  | [] => .none
  | (kind, stored) :: rest =>
    if stored.isEmpty then some ("kind '" ++ kind ++ "' maps to an empty alias")
    else match owners.find? (·.1 == stored) with
      | some (_, owner) =>
        some ("'" ++ owner ++ "' and '" ++ kind ++ "' both map to '" ++ stored ++ "'")
      | .none => firstFault ((stored, kind) :: owners) rest

/-- **Accept a map of aliases**, unless an alias is empty or shared. The kinds
are looked at in increasing order. -/
def ofMap (stored : Std.ExtTreeMap String String) : Except FeatureError Aliases :=
  match firstFault [] stored.toList with
  | some text => .error (.conflictingKeyMapping text)
  | .none => .ok ⟨stored⟩

/-- The stored name of an entity kind. -/
def storedKind (aliases : Aliases) (kind : String) : String :=
  aliases.stored[kind]?.getD kind

/-- The key of an identity, before any scope. -/
def identityKey (aliases : Aliases) : Identity → String
  | .null => Key.null
  | .scalar id => Key.escape id
  | .entity kind key => Key.escape (aliases.storedKind kind) ++ "|" ++ Key.escape key
  | .custom id => Key.escape id

/-- **The key of a context**, in its own scope or else the ambient one. -/
def key (aliases : Aliases) (context : Context) (ambient : Option Scope) : String :=
  let base := aliases.identityKey context.identity
  match context.scope.or ambient with
  | some scope => base ++ scope.suffix
  | .none => base

end Aliases

end FeatureGate
