import FeatureGate.Json.Document

/-!
# JSON tokens

The characters of a JSON text are read once, from the left, by a machine whose
state is the token it is inside of (`Lexer`). Strings come out unescaped,
numbers as they are written and checked against the grammar of numerals.

A string may hold `\u` escapes for halves of surrogate pairs. A pair spells one
character; a half on its own spells none, and the token then has no text. Such
a string is refused only where somebody asks for its text.
-/

namespace FeatureGate.Json

/-- **A token** of a JSON text. -/
inductive Token where
  /-- The bracket `[`. -/
  | openArray
  /-- The bracket `]`. -/
  | closeArray
  /-- The opening brace. -/
  | openObject
  /-- The closing brace. -/
  | closeObject
  /-- The separator of items and fields. -/
  | comma
  /-- The separator of a name and its value. -/
  | colon
  /-- The literal `null`. -/
  | null
  /-- A truth value. -/
  | bool (value : Bool)
  /-- A number as it is written. -/
  | number (text : String)
  /-- A string, unescaped; without a text if it holds half a surrogate pair. -/
  | string (text : Option String)
deriving Repr, DecidableEq

namespace Token

/-- Blanks between tokens. -/
def isSpace (c : Char) : Bool :=
  c == ' ' || c == '\t' || c == '\n' || c == '\r'

/-- Characters a numeral consists of. -/
def isNumeric (c : Char) : Bool :=
  c.isDigit || c == '-' || c == '+' || c == '.' || c == 'e' || c == 'E'

/-- The character after a backslash, for the escapes of one letter. -/
def unescape? (c : Char) : Option Char :=
  if c = '"' then some '"'
  else if c = '\\' then some '\\'
  else if c = '/' then some '/'
  else if c = 'b' then some '\x08'
  else if c = 'f' then some '\x0c'
  else if c = 'n' then some '\n'
  else if c = 'r' then some '\r'
  else if c = 't' then some '\t'
  else none

/-! ## The text of a string -/

/-- The text of a string read so far, newest character first. -/
structure Spelling where
  /-- The characters. -/
  chars : List Char
  /-- A leading half of a surrogate pair that still waits for the other. -/
  pending : Option Nat
  /-- Whether half a pair has been left alone. -/
  broken : Bool

namespace Spelling

/-- Nothing read yet. -/
def empty : Spelling := ⟨[], none, false⟩

/-- A pair left waiting is broken. -/
def settle (s : Spelling) : Spelling :=
  { s with pending := none, broken := s.broken || s.pending.isSome }

/-- Add a character. -/
def push (s : Spelling) (c : Char) : Spelling :=
  let s := s.settle
  { s with chars := c :: s.chars }

/-- Add a code unit given by a `\u` escape. -/
def pushUnit (s : Spelling) (unit : Nat) : Spelling :=
  if 0xD800 ≤ unit ∧ unit < 0xDC00 then { s.settle with pending := some unit }
  else if 0xDC00 ≤ unit ∧ unit < 0xE000 then
    match s.pending with
    | some high =>
      let code := 0x10000 + (high - 0xD800) * 0x400 + (unit - 0xDC00)
      { s with chars := Char.ofNat code :: s.chars, pending := none }
    | none => { s with broken := true }
  else s.push (Char.ofNat unit)

/-- The text, if every pair is whole. -/
def text? (s : Spelling) : Option String :=
  let s := s.settle
  if s.broken then none else some (String.ofList s.chars.reverse)

end Spelling

/-! ## The lexer -/

/-- What the lexer is inside of. -/
inductive Inside where
  /-- Between two tokens. -/
  | between
  /-- A run of lower-case letters, newest first. -/
  | word (letters : List Char)
  /-- A number, newest character first. -/
  | number (chars : List Char)
  /-- A string. -/
  | string (spelling : Spelling)
  /-- A string, after a backslash. -/
  | escaped (spelling : Spelling)
  /-- A string, in a `\u` escape with `missing` digits to come. -/
  | unit (spelling : Spelling) (missing : Nat) (value : Nat)

/-- **The lexer**: the tokens read so far, newest first, and the one it is
inside of. -/
structure Lexer where
  /-- The tokens, newest first. -/
  tokens : List Token
  /-- The token begun. -/
  inside : Inside

namespace Lexer

/-- Nothing read yet. -/
def start : Lexer := ⟨[], .between⟩

/-- A whole token has been read. -/
def emit (lexer : Lexer) (token : Token) : Lexer :=
  ⟨token :: lexer.tokens, .between⟩

/-- The token of a run of letters. -/
def wordToken? (letters : List Char) : Option Token :=
  if letters = "null".toList then some .null
  else if letters = "true".toList then some (.bool true)
  else if letters = "false".toList then some (.bool false)
  else none

/-- End the word or number the lexer is inside of. A text cannot end inside a
string. -/
def finish? (lexer : Lexer) : Option Lexer :=
  match lexer.inside with
  | .between => some lexer
  | .word letters => (wordToken? letters.reverse).map lexer.emit
  | .number chars =>
    if (Numeral.parse? chars.reverse).isSome then
      some (lexer.emit (.number (String.ofList chars.reverse)))
    else none
  | _ => none

/-- Read a character between two tokens. -/
def begin? (lexer : Lexer) (c : Char) : Option Lexer :=
  if isSpace c then some lexer
  else if c = '[' then some (lexer.emit .openArray)
  else if c = ']' then some (lexer.emit .closeArray)
  else if c = '\x7b' then some (lexer.emit .openObject)
  else if c = '\x7d' then some (lexer.emit .closeObject)
  else if c = ',' then some (lexer.emit .comma)
  else if c = ':' then some (lexer.emit .colon)
  else if c = '"' then some { lexer with inside := .string .empty }
  else if c = '-' ∨ c.isDigit then some { lexer with inside := .number [c] }
  else if c.isLower then some { lexer with inside := .word [c] }
  else none

/-- **Read one character.** A control character inside a string is refused. -/
def step? (lexer : Lexer) (c : Char) : Option Lexer :=
  match lexer.inside with
  | .between => lexer.begin? c
  | .word letters =>
    if c.isLower then some { lexer with inside := .word (c :: letters) }
    else do (← lexer.finish?).begin? c
  | .number chars =>
    if isNumeric c then some { lexer with inside := .number (c :: chars) }
    else do (← lexer.finish?).begin? c
  | .string spelling =>
    if c = '"' then some (lexer.emit (.string spelling.text?))
    else if c = '\\' then some { lexer with inside := .escaped spelling }
    else if c.toNat < 0x20 then none
    else some { lexer with inside := .string (spelling.push c) }
  | .escaped spelling =>
    if c = 'u' then some { lexer with inside := .unit spelling 4 0 }
    else do
      let unescaped ← unescape? c
      some { lexer with inside := .string (spelling.push unescaped) }
  | .unit spelling missing value => do
    let value := 16 * value + (← Text.digit? c)
    some <|
      if missing ≤ 1 then { lexer with inside := .string (spelling.pushUnit value) }
      else { lexer with inside := .unit spelling (missing - 1) value }

end Lexer

/-- **The tokens of a text**, if it consists of tokens. -/
def scan? (cs : List Char) : Option (List Token) := do
  let lexer ← cs.foldlM Lexer.step? Lexer.start
  return (← lexer.finish?).tokens.reverse

end Token

end FeatureGate.Json
