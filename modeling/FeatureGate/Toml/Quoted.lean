import FeatureGate.Text.Digits
import FeatureGate.Text.Reading

/-!
# TOML strings

A string stands between double quotes, and then a backslash escapes, or between
single quotes, and then every character stands for itself. Between three quotes
it may go over several lines: a line break right after the opening quotes does
not count, and one or two quotes may stand before the closing ones. Between
three double quotes a backslash at the end of a line makes the blanks up to the
next character go.

No control characters may occur but tabs and, over several lines, line breaks.
-/

namespace FeatureGate.Toml

open Text (Reading)
open Text.Reading

/-- Blanks inside a line. -/
def isSpace (c : Char) : Bool := c == ' ' || c == '\t'

/-- Control characters, which may not occur in a document; tabs may. -/
def isControl (c : Char) : Bool :=
  (c.toNat < 0x20 && c != '\t') || c.toNat == 0x7f

/-- Where the reading of a string with escapes is. -/
inductive Escape where
  /-- Outside an escape. -/
  | outside
  /-- After a backslash. -/
  | begun
  /-- In the code of a character, with `missing` digits to come. -/
  | code (missing value : Nat)
  /-- Passing over blanks at the end of a line, past the line break or not. -/
  | folding (broken : Bool)

/-- The character after a backslash, for the escapes of one letter. -/
def unescape? (c : Char) : Option Char :=
  if c = 'b' then some '\x08'
  else if c = 't' then some '\t'
  else if c = 'n' then some '\n'
  else if c = 'f' then some '\x0c'
  else if c = 'r' then some '\r'
  else if c = 'e' then some '\x1b'
  else if c = '"' then some '"'
  else if c = '\\' then some '\\'
  else none

/-- How many hexadecimal digits follow the letter of an escape. -/
def codeLength? (c : Char) : Option Nat :=
  if c = 'x' then some 2
  else if c = 'u' then some 4
  else if c = 'U' then some 8
  else none

/-- The character of a code point, if it has one. -/
def charOf? (code : Nat) : Option Char :=
  if code.isValidChar then some (Char.ofNat code) else none

/-- The letter of an escape: where the reading is then, and what is spelled. -/
def Escape.begin? (c : Char) : Option (Escape × List Char) :=
  match unescape? c, codeLength? c with
  | some unescaped, _ => some (.outside, [unescaped])
  | none, some length => some (.code length 0, [])
  | none, none => none

/-- A digit of a code: where the reading is then, and what is spelled. -/
def Escape.digit? (missing value : Nat) (c : Char) : Option (Escape × List Char) := do
  let value := 16 * value + (← Text.digit? c)
  if missing ≤ 1 then return (.outside, [← charOf? value])
  else return (.code (missing - 1) value, [])

/-- A string in one line with escapes, up to the closing quote. -/
def basicBody : Escape → List Char → Option (List Char × List Char)
  | .outside, '"' :: rest => some ([], rest)
  | .outside, '\\' :: rest => basicBody .begun rest
  | .outside, c :: rest => do
    guard !isControl c
    let (text, left) ← basicBody .outside rest
    return (c :: text, left)
  | .begun, c :: rest => do
    let (escape, spelled) ← Escape.begin? c
    let (text, left) ← basicBody escape rest
    return (spelled ++ text, left)
  | .code missing value, c :: rest => do
    let (escape, spelled) ← Escape.digit? missing value c
    let (text, left) ← basicBody escape rest
    return (spelled ++ text, left)
  | _, _ => none

/-- Up to two quotes before the closing ones belong to the text. -/
def closing (quote : Char) (rest : List Char) : List Char × List Char :=
  let extra := (rest.take 2).takeWhile (· == quote)
  (extra, rest.drop extra.length)

/-- A string over several lines with escapes, up to the closing quotes. -/
def longBasicBody : Escape → List Char → Option (List Char × List Char)
  | .begun, ' ' :: rest => longBasicBody (.folding false) rest
  | .begun, '\t' :: rest => longBasicBody (.folding false) rest
  | .begun, '\n' :: rest => longBasicBody (.folding true) rest
  | .begun, '\r' :: '\n' :: rest => longBasicBody (.folding true) rest
  | .begun, c :: rest => do
    let (escape, spelled) ← Escape.begin? c
    let (text, left) ← longBasicBody escape rest
    return (spelled ++ text, left)
  | .code missing value, c :: rest => do
    let (escape, spelled) ← Escape.digit? missing value c
    let (text, left) ← longBasicBody escape rest
    return (spelled ++ text, left)
  | .folding broken, ' ' :: rest => longBasicBody (.folding broken) rest
  | .folding broken, '\t' :: rest => longBasicBody (.folding broken) rest
  | .folding _, '\n' :: rest => longBasicBody (.folding true) rest
  | .folding _, '\r' :: '\n' :: rest => longBasicBody (.folding true) rest
  | .folding false, _ => none
  | _, '"' :: '"' :: '"' :: rest => some (closing '"' rest)
  | _, '\\' :: rest => longBasicBody .begun rest
  | _, '\r' :: '\n' :: rest => do
    let (text, left) ← longBasicBody .outside rest
    return ('\r' :: '\n' :: text, left)
  | _, c :: rest => do
    guard (c == '\n' || !isControl c)
    let (text, left) ← longBasicBody .outside rest
    return (c :: text, left)
  | _, [] => none

/-- A string between single quotes, up to the closing quote. -/
def literalBody : List Char → Option (List Char × List Char)
  | '\'' :: rest => some ([], rest)
  | c :: rest => do
    guard !isControl c
    let (text, left) ← literalBody rest
    return (c :: text, left)
  | [] => none

/-- A string over several lines between single quotes, up to the closing
quotes. -/
def longLiteralBody : List Char → Option (List Char × List Char)
  | '\'' :: '\'' :: '\'' :: rest => some (closing '\'' rest)
  | '\r' :: '\n' :: rest => do
    let (text, left) ← longLiteralBody rest
    return ('\r' :: '\n' :: text, left)
  | c :: rest => do
    guard (c == '\n' || !isControl c)
    let (text, left) ← longLiteralBody rest
    return (c :: text, left)
  | [] => none

/-- The text a body spells. -/
def body (read : List Char → Option (List Char × List Char)) :
    Reading String := fun chars =>
  (read chars).map fun (text, left) => (String.ofList text, left)

/-- Pass over a line break, if one comes next. -/
def skipNewline : Reading Bool := do
  if ← skip "\n" then return true else skip "\r\n"

/-- **A string in one line.** -/
def shortText : Reading String := do
  match ← next with
  | '"' => body (basicBody .outside)
  | '\'' => body literalBody
  | _ => failure

/-- **A string**, in one line or over several. -/
def text : Reading String := do
  if ← skip "\"\"\"" then
    let _ ← skipNewline
    body (longBasicBody .outside)
  else if ← skip "'''" then
    let _ ← skipNewline
    body longLiteralBody
  else shortText

/-! ## Where a string ends -/

/-- Whether a character after a backslash cannot end a string. -/
def isShielded (quote c : Char) : Bool := quote == '"' && (c == '"' || c == '\\')

/-- How many characters after its opening quote a string in one line takes. One
that is not closed ends with the line. -/
def shortLength (quote : Char) : List Char → Nat
  | '\\' :: c :: rest =>
    if isShielded quote c then shortLength quote rest + 2
    else shortLength quote (c :: rest) + 1
  | c :: rest =>
    if c = '\n' then 0 else if c = quote then 1 else shortLength quote rest + 1
  | [] => 0

/-- How many characters after its opening quotes a string over several lines
takes. One that is not closed ends with the text. -/
def longLength (quote : Char) : List Char → Nat
  | '\\' :: c :: rest =>
    if isShielded quote c then longLength quote rest + 2
    else longLength quote (c :: rest) + 1
  | c :: rest =>
    if [quote, quote, quote].isPrefixOf (c :: rest) then
      3 + (closing quote (rest.drop 2)).1.length
    else longLength quote rest + 1
  | [] => 0

/-- **The characters of a string**, with its quotes, whether it is well-formed
or not. -/
def quoted (quote : Char) : Reading (List Char) := fun chars =>
  let length :=
    if [quote, quote, quote].isPrefixOf chars then longLength quote (chars.drop 3) + 3
    else shortLength quote (chars.drop 1) + 1
  some (chars.take length, chars.drop length)

end FeatureGate.Toml
