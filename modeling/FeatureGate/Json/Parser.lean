import FeatureGate.Json.Token

/-!
# Reading JSON

Tokens are read one by one by a machine that keeps the containers still open on
a stack (`Reader`), so reading is one fold over the tokens, however deep the
document nests. A text is read if it is exactly one document.

`Json.parse?` reads a text as a value. At most 127 arrays and objects may be
open at once in it.
-/

namespace FeatureGate.Json

/-- A container that is still open. -/
inductive Reader.Open where
  /-- An array with its items so far, newest first. -/
  | array (items : List Document)
  /-- An object with its fields so far, newest first, and the name whose value
  is being read. -/
  | object (fields : List (Option String × Document)) (name : Option String)

/-- What may come next. -/
inductive Reader.Stage where
  /-- A value. -/
  | value
  /-- A value, or the end of the array just opened. -/
  | firstItem
  /-- A name, or the end of the object just opened. -/
  | firstName (fields : List (Option String × Document))
  /-- A name. -/
  | name (fields : List (Option String × Document))
  /-- The colon after a name. -/
  | colon
  /-- A comma, or the end of the innermost container. -/
  | afterValue (last : Document)

/-- **The reader**: the open containers, innermost first, and what may come
next. -/
structure Reader where
  /-- The containers still open. -/
  stack : List Reader.Open
  /-- What may come next. -/
  stage : Reader.Stage

namespace Reader

/-- Nothing read yet. -/
def start : Reader := ⟨[], .value⟩

/-- A whole value has been read. -/
def complete (reader : Reader) (value : Document) : Reader :=
  ⟨reader.stack, .afterValue value⟩

/-- Read the first token of a value. -/
def beginValue? (reader : Reader) : Token → Option Reader
  | .null => some (reader.complete .null)
  | .bool value => some (reader.complete (.bool value))
  | .number text => some (reader.complete (.number text))
  | .string text => some (reader.complete (.string text))
  | .openArray => some ⟨.array [] :: reader.stack, .firstItem⟩
  | .openObject => some ⟨reader.stack, .firstName []⟩
  | _ => none

/-- Read a name of the object whose fields so far are given. -/
def beginField? (reader : Reader) (fields : List (Option String × Document)) :
    Token → Option Reader
  | .string name => some ⟨.object fields name :: reader.stack, .colon⟩
  | _ => none

/-- Read a token after a whole value. -/
def continue? (reader : Reader) (last : Document) (token : Token) : Option Reader :=
  match reader.stack, token with
  | .array items :: rest, .comma => some ⟨.array (last :: items) :: rest, .value⟩
  | .array items :: rest, .closeArray =>
    some ⟨rest, .afterValue (.array (last :: items).reverse)⟩
  | .object fields name :: rest, .comma =>
    some ⟨rest, .name ((name, last) :: fields)⟩
  | .object fields name :: rest, .closeObject =>
    some ⟨rest, .afterValue (.object ((name, last) :: fields).reverse)⟩
  | _, _ => none

/-- **Read one token.** -/
def step? (reader : Reader) (token : Token) : Option Reader :=
  match reader.stage with
  | .value => reader.beginValue? token
  | .firstItem =>
    match token, reader.stack with
    | .closeArray, _ :: rest => some ⟨rest, .afterValue (.array [])⟩
    | _, _ => reader.beginValue? token
  | .firstName fields =>
    match token with
    | .closeObject => some (reader.complete (.object []))
    | _ => reader.beginField? fields token
  | .name fields => reader.beginField? fields token
  | .colon => if token = .colon then some ⟨reader.stack, .value⟩ else none
  | .afterValue last => reader.continue? last token

/-- The document, if it is whole. -/
def document? (reader : Reader) : Option Document :=
  match reader.stack, reader.stage with
  | [], .afterValue document => some document
  | _, _ => none

end Reader

/-- **Read a text as one document.** -/
def Document.parse? (text : String) : Option Document := do
  let reader ← (← Token.scan? text.toList).foldlM Reader.step? Reader.start
  reader.document?

/-- How many arrays and objects may be open at once in a text that is read as a
value. -/
def depthLimit : Nat := 127

/-- **Read a text as one value**; its objects end up with sorted fields. -/
def parse? (text : String) : Option Json := do
  (← Document.parse? text).toJson? depthLimit

end FeatureGate.Json
