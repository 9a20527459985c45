import FeatureGate.Toml.Quoted
import FeatureGate.Toml.Scalar

/-!
# Reading TOML

A document is read line by line: a key and its value, the header of a table, or
the header of a table in a list of tables. Comments go to the end of the line.
Lists and inline tables may go over several lines, and a comma may stand after
their last item; at most eighty of them may be open at once, and a key has at
most eighty parts.

How the signs of a document are placed is found out first, for all of it: a
reading fails where they are misplaced. What stands between the signs is judged
by what a reading gives back, the meaning or the first fault of it, from the top
of the document to its end. Whether all numbers can be read is found out last.
-/

namespace FeatureGate.Toml

open Text (Reading)
open Text.Reading

/-- **What keeps a text from being a document.** -/
inductive Fault where
  /-- It is not written as a document is, or assigns to a key twice. -/
  | malformed
  /-- A key has too many parts. -/
  | tooDeep
deriving DecidableEq, Repr

/-- What a part of a document means, or the first fault of it. -/
abbrev Meaning := Except Fault

/-- A meaning that there may be. -/
def Meaning.of? {α : Type} : Option α → Meaning α
  | some meaning => .ok meaning
  | none => .error .malformed

/-- How many lists and inline tables may be open at once, and how many parts a
key may have. -/
def depthLimit : Nat := 80

/-! ## Between the items -/

/-- Pass over a comment, if one comes next. -/
def comment : Reading Unit := do
  if ← skip "#" then
    let text ← span fun c => c != '\n' && c != '\r'
    guard (!text.any isControl)

/-- Pass over blanks inside a line. -/
def spaces : Reading Unit := skipWhile isSpace

/-- Pass over blanks, comments and so many line breaks at most. -/
def blankLines : Nat → Reading Unit
  | 0 => failure
  | fuel + 1 => do
    spaces
    comment
    if ← skipNewline then blankLines fuel

/-- Pass over blanks, comments and line breaks. -/
def padding : Reading Unit := do
  blankLines ((← get).length + 1)

/-- **Items separated by commas**, up to the closing bracket. -/
def separated {α : Type} (item : Reading α) (close : String) : Nat → Reading (List α)
  | 0 => failure
  | fuel + 1 => do
    padding
    if ← skip close then return []
    guard ((← peek) != some ',')
    let first ← item
    padding
    if ← skip close then return [first]
    expect ','
    return first :: (← separated item close fuel)

/-! ## Keys -/

/-- Whether a character belongs to a value without quotes, well-formed or not. -/
def isPlain (c : Char) : Bool :=
  c ∉ ['=', ',', '[', ']', '\x7b', '\x7d', ' ', '\t', '\r', '\n', '#']

/-- Whether a character belongs to a part of a key without quotes, well-formed or
not. -/
def isPart (c : Char) : Bool := isPlain c && c != '.'

/-- Characters a part of a key without quotes consists of. -/
def isBare (c : Char) : Bool := c.isAlphanum || c == '-' || c == '_'

/-- The text of a part of a key. -/
def keyText? (chars : List Char) : Option String :=
  match chars.head? with
  | some '"' | some '\'' => shortText.whole? chars
  | _ => if !chars.isEmpty && chars.all isBare then some (String.ofList chars) else none

/-- One part of a key, as it is written. -/
def keyPart : Reading (List Char) := do
  match ← peek with
  | some '"' => quoted '"'
  | some '\'' => quoted '\''
  | _ => span isPart

/-- The parts of a key, separated by dots. -/
def keyParts : Nat → Reading (List (List Char))
  | 0 => failure
  | fuel + 1 => do
    spaces
    let part ← keyPart
    spaces
    if ← skip "." then return part :: (← keyParts fuel) else return [part]

/-- The path to the last part of a key, and the last part. -/
def keyOf (parts : List (List Char)) : Meaning (List String × String) := do
  let texts ← parts.mapM fun part => Meaning.of? (keyText? part)
  if depthLimit < texts.length then throw .tooDeep
  return (texts.dropLast, ← Meaning.of? texts.getLast?)

/-- **A key.** -/
def key : Reading (Meaning (List String × String)) := do
  return keyOf (← keyParts ((← get).length + 1))

/-! ## Values -/

/-- The item of a value without brackets. -/
def plainItem? (chars : List Char) : Option Item :=
  match chars.head? with
  | some '"' | some '\'' => (text.whole? chars).map Item.text
  | _ => scalar? chars

/-- The characters up to a sign or to a string; a string starts with a quote, at
the start or behind a blank or a dot. -/
def untilSign : (mayStart : Bool) → List Char → List Char
  | _, [] => []
  | mayStart, c :: rest =>
    if !(isPlain c || isSpace c) || mayStart && (c = '"' || c = '\'') then []
    else c :: untilSign (c = '.' || isSpace c) rest

/-- A value without brackets, as it is written. Without quotes it goes up to the
next sign or string, but for blanks before that. -/
def plainChars : Reading (List Char) := do
  match ← peek with
  | some '"' => quoted '"'
  | some '\'' => quoted '\''
  | _ =>
    let chars := ((untilSign true (← get)).reverse.dropWhile isSpace).reverse
    set ((← get).drop chars.length)
    return chars

/-- A value without brackets. -/
def plain : Reading (Meaning Item) := do
  return Meaning.of? (plainItem? (← plainChars))

/-- A key with a value, once both are found. -/
def withValue (key : Meaning (List String × String)) (value : Meaning Item) :
    Meaning (List String × String × Item) := do
  let (path, last) ← key
  return (path, last, ← value)

/-- A key and its value in a line. -/
def pair (value : Reading (Meaning Item)) :
    Reading (Meaning (List String × String × Item)) := do
  let key ← key
  spaces
  expect '='
  spaces
  return withValue key (← value)

/-- A key and its value in an inline table. At the end of the table a key may
stand without its equals sign; then what is missing is the value. -/
def inlinePair (value : Reading (Meaning Item)) :
    Reading (Meaning (List String × String × Item)) := do
  let key ← key
  padding
  if (← peek) = some '\x7d' then return withValue key (.error .malformed)
  expect '='
  padding
  guard ((← peek) ≠ some ',')
  return withValue key (← value)

/-- **A table written inline**: its keys may be dotted too. -/
def inlineTable (pairs : List (Meaning (List String × String × Item))) :
    Meaning Item := do
  let entries ← pairs.foldlM (fun entries pair => do
    let (path, last, item) ← pair
    Meaning.of? (Entries.assign path last item .header entries)) []
  return .table .inline entries

/-- **A value** with at most so many lists and inline tables open at once. -/
def value : Nat → Reading (Meaning Item)
  | 0 => plain
  | budget + 1 => do
    if ← skip "[" then
      let items ← separated (value budget) "]" ((← get).length + 1)
      return (items.mapM id).map Item.array
    else if ← skip "\x7b" then
      return inlineTable
        (← separated (inlinePair (value budget)) "\x7d" ((← get).length + 1))
    else plain

/-! ## Documents -/

/-- What a line does to the document being built. -/
abbrev Change := Draft → Meaning Draft

/-- Pass over what is left of a line before its comment, strings and all. -/
def restOfLine : Nat → Reading Unit
  | 0 => failure
  | fuel + 1 => do
    match ← peek with
    | none | some '#' | some '\n' | some '\r' => return
    | some '"' =>
      let _ ← quoted '"'
      restOfLine fuel
    | some '\'' =>
      let _ ← quoted '\''
      restOfLine fuel
    | some c =>
      if isPart c then skipWhile isPart else
        let _ ← next
      restOfLine fuel

/-- **The header of a table**, after its opening bracket. One that lacks the last
part of its key may lack its closing brackets too, and whatever stands there. -/
def header : Reading Change := do
  let element ← skip "["
  let parts ← keyParts ((← get).length + 1)
  if ← skip "]" then
    if element then expect ']'
  else
    guard (parts.getLast?.any (·.isEmpty))
    restOfLine ((← get).length + 1)
  return fun draft => do
    let entries ← Meaning.of? draft.close
    let (path, last) ← keyOf parts
    if element then return Draft.openElement entries path last
    else Meaning.of? (Draft.openTable entries path last)

/-- What stands in a line before its comment, if anything does. -/
def line : Reading Change := do
  match ← peek with
  | none | some '#' | some '\n' | some '\r' => return .ok
  | some '[' =>
    let _ ← next
    header
  | some _ =>
    let pair ← pair (value depthLimit)
    return fun draft => do
      let (path, last, item) ← pair
      Meaning.of? (draft.assign path last item)

/-- The lines of a document. -/
def lines : Nat → Reading (List Change)
  | 0 => failure
  | fuel + 1 => do
    spaces
    let change ← line
    spaces
    comment
    if ← skipNewline then return change :: (← lines fuel)
    else
      finish
      return [change]

/-- **The entries of a document**; a byte order mark at its start is passed
over. -/
def parse (text : String) : Meaning Entries := do
  let chars := match text.toList with
    | '\ufeff' :: rest => rest
    | chars => chars
  let changes ← Meaning.of? ((lines (chars.length + 1)).whole? chars)
  let draft ← changes.foldlM (fun draft change => change draft) Draft.empty
  let entries ← Meaning.of? draft.close
  if areEntriesReadable entries then return entries else throw .malformed

end FeatureGate.Toml
