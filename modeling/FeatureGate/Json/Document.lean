import FeatureGate.Json.Basic

/-!
# JSON documents

A `Document` is what a JSON text says, before anything decides what it means:
numbers keep their written form, objects keep every field in the order written,
names repeated or not, and a string whose escapes do not spell Unicode text is
kept as a string without a text. Typed records are read off documents, because
a record ignores the fields it does not know *without looking into them*: a
number out of range or a broken escape below such a field is no error.

Meaning is `Document.toJson?`. It fails on numbers out of range, on strings
without a text, and on nesting deeper than a given budget.

Writing goes the other way. A document is rendered compactly, its fields in
their order; a `Json` value becomes a document first, so the text of a payload
has its fields sorted, and the text of a record has them in the order of the
record.
-/

namespace FeatureGate.Json

/-- **A JSON document**: the structure of a text, with numbers unread. -/
inductive Document where
  /-- The literal `null`. -/
  | null
  /-- The literal `true` or `false`. -/
  | bool (value : Bool)
  /-- A number as it is written. -/
  | number (text : String)
  /-- A string; without a text if it holds half a surrogate pair. -/
  | string (text : Option String)
  /-- A list of documents. -/
  | array (items : List Document)
  /-- The fields of an object as they are written. -/
  | object (fields : List (Option String × Document))
deriving Repr, Inhabited

namespace Document

/-! ## Meaning -/

mutual

/-- **The value a document stands for.** At most `budget` arrays and objects may
be open at once; of repeated fields the last counts. -/
def toJson? (budget : Nat) : Document → Option Json
  | .null => some .null
  | .bool value => some (.bool value)
  | .number text => (Number.ofText? text).map .number
  | .string text => text.map .string
  | .array items =>
    match budget with
    | 0 => none
    | rest + 1 => (itemsToJson? rest items).map .array
  | .object fields =>
    match budget with
    | 0 => none
    | rest + 1 => (fieldsToJson? rest fields).map ofFields

/-- The values of a list of documents, if all have one. -/
def itemsToJson? (budget : Nat) : List Document → Option (List Json)
  | [] => some []
  | item :: rest =>
    match toJson? budget item, itemsToJson? budget rest with
    | some value, some values => some (value :: values)
    | _, _ => none

/-- The values of a list of fields, if all have one and every name is a text. -/
def fieldsToJson? (budget : Nat) :
    List (Option String × Document) → Option (List (String × Json))
  | [] => some []
  | (name, item) :: rest =>
    match name, toJson? budget item, fieldsToJson? budget rest with
    | some name, some value, some values => some ((name, value) :: values)
    | _, _, _ => none

end

/-! ## From values -/

mutual

/-- The document of a value. -/
def ofJson : Json → Document
  | .null => .null
  | .bool value => .bool value
  | .number value => .number value.text
  | .string value => .string (some value)
  | .array items => .array (ofItems items)
  | .object fields => .object (ofFields fields)

/-- The documents of a list of values. -/
def ofItems : List Json → List Document
  | [] => []
  | item :: rest => ofJson item :: ofItems rest

/-- The documents of a list of fields. -/
def ofFields : List (String × Json) → List (Option String × Document)
  | [] => []
  | (name, item) :: rest => (some name, ofJson item) :: ofFields rest

end

/-- A string document. -/
def text (value : String) : Document := .string (some value)

/-- An object whose fields are written in the order given. -/
def record (fields : List (String × Document)) : Document :=
  .object (fields.map fun field => (some field.1, field.2))

/-- A document or `null`. -/
def ofOption : Option Document → Document
  | some document => document
  | none => .null

/-! ## Text -/

/-- The lower-case hexadecimal digit of a number below sixteen. -/
def hexDigit (n : Nat) : Char := Nat.digitChar n

/-- **Escapes**: the two delimiters, the controls that have a letter, and the
other controls below U+0020 by their number. Nothing else is escaped. -/
def escape (c : Char) : List Char :=
  if c = '"' then ['\\', '"']
  else if c = '\\' then ['\\', '\\']
  else if c = '\n' then ['\\', 'n']
  else if c = '\r' then ['\\', 'r']
  else if c = '\t' then ['\\', 't']
  else if c = '\x08' then ['\\', 'b']
  else if c = '\x0c' then ['\\', 'f']
  else if c.toNat < 0x20 then
    ['\\', 'u', '0', '0', hexDigit (c.toNat / 16), hexDigit (c.toNat % 16)]
  else [c]

/-- A quoted string. -/
def quote (s : String) : List Char :=
  '"' :: s.toList.flatMap escape ++ ['"']

mutual

/-- The characters of a document, without blanks. -/
def chars : Document → List Char
  | .null => "null".toList
  | .bool true => "true".toList
  | .bool false => "false".toList
  | .number text => text.toList
  | .string text => quote (text.getD "")
  | .array items => '[' :: charsItems items ++ [']']
  | .object fields => '\x7b' :: charsFields fields ++ ['\x7d']

/-- The items of an array, separated by commas. -/
def charsItems : List Document → List Char
  | [] => []
  | [item] => chars item
  | item :: rest => chars item ++ ',' :: charsItems rest

/-- The fields of an object, separated by commas. -/
def charsFields : List (Option String × Document) → List Char
  | [] => []
  | [(name, item)] => quote (name.getD "") ++ ':' :: chars item
  | (name, item) :: rest =>
    quote (name.getD "") ++ ':' :: chars item ++ ',' :: charsFields rest

end

/-- **The compact text of a document.** -/
def render (document : Document) : String := String.ofList document.chars

end Document

/-- **The compact text of a value**: fields sorted, no blanks. -/
def render (value : Json) : String := (Document.ofJson value).render

end FeatureGate.Json
