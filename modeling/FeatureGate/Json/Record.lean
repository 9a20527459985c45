import FeatureGate.Json.Parser

/-!
# Records in documents

A record is written as an object with its fields in a fixed order. It is read
from an object with the fields in any order – unknown fields are passed over
unread, a known one may not be repeated – or from an array with exactly the
values of the fields. Either way the reader gets one entry per field, so that
what a missing field means is decided by the record.
-/

namespace FeatureGate.Json.Document

/-- The entries of an object under a name. -/
def entries (fields : List (Option String × Document)) (name : String) : List Document :=
  (fields.filter (·.1 == some name)).map (·.2)

/-- **The fields of a record**, in the order of `names`; `none` if the document
is no record with these names. -/
def fields? (names : List String) : Document → Option (List (Option Document))
  | .object fields =>
    if fields.all (·.1.isSome)
        && names.all (fun name => (entries fields name).length ≤ 1) then
      some (names.map fun name => (entries fields name).head?)
    else none
  | .array items => if items.length = names.length then some (items.map some) else none
  | _ => none

/-- The text of a string document. -/
def text? : Document → Option String
  | .string text => text
  | _ => none

/-- The number of a numeric document. -/
def number? : Document → Option Number
  | .number text => Number.ofText? text
  | _ => none

/-- Whether the document is the literal `null`. -/
def isNull : Document → Bool
  | .null => true
  | _ => false

/-- **The name and value of a one-field object**, which is how a choice with
contents is written. -/
def choice? : Document → Option (String × Document)
  | .object [(some name, value)] => some (name, value)
  | _ => none

end FeatureGate.Json.Document
