import FeatureGate.Text.Blank
import FeatureGate.Text.Digits
import FeatureGate.Text.Letter
import FeatureGate.Text.Reading

/-!
# Patterns of values

A log filter may ask for spans with a field whose value is of a pattern, a
regular expression. There are no spans here, so nothing is ever matched against
a pattern; but a filter with a pattern that is not well-formed is no filter.

A pattern is read from the left. What counts is which groups are open, what
flags are in force (`Flags`), and whether something stands there that could be
repeated. Without tables of Unicode characters at hand, what would need them is
not well-formed either: a class of digits, blanks or words, a border of a word
and a letter in any case, unless they are of ASCII alone. And all that is
matched must be text, so in a pattern of bytes nothing may match a byte from 80
in hexadecimal on.
-/

namespace FeatureGate.Log

open Text (Reading isBlank)
open Text.Reading

namespace Pattern

/-- **The flags in force** at some place of a pattern, as far as they bear on
whether it is well-formed. -/
structure Flags where
  /-- Whether it is about characters, and not about bytes. -/
  unicode : Bool
  /-- Whether letters stand for themselves in any case. -/
  anyCase : Bool
  /-- Whether blanks and comments do not count. -/
  verbose : Bool
deriving DecidableEq, Repr

namespace Flags

/-- The flags a pattern begins with. -/
def standard : Flags := ⟨true, false, false⟩

/-- Whether a single character may be matched: characters in any case would need
a table. -/
def allowsLiteral (flags : Flags) : Bool := !(flags.anyCase && flags.unicode)

/-- Set a flag, or unset it. -/
def put (flags : Flags) (letter : Char) (on : Bool) : Flags :=
  match letter with
  | 'u' => { flags with unicode := on }
  | 'i' => { flags with anyCase := on }
  | 'x' => { flags with verbose := on }
  | _ => flags

/-- The flags after a list of letters, where those behind a minus sign are unset. -/
def change (flags : Flags) (letters : List Char) : Flags :=
  let flags := (letters.takeWhile (· ≠ '-')).foldl (·.put · true) flags
  (letters.dropWhile (· ≠ '-')).foldl (·.put · false) flags

end Flags

/-- Pass over blanks and comments, up to so many comments. -/
def skipComments : Nat → Reading Unit
  | 0 => return
  | fuel + 1 => do
    skipWhile isBlank
    if ← skip "#" then
      skipWhile (· ≠ '\n')
      skipComments fuel

/-- Pass over what does not count. -/
def padding (flags : Flags) : Reading Unit := do
  if flags.verbose then skipComments ((← get).length + 1)

/-! ## After a backslash -/

/-- **What an escape stands for.** -/
inductive Escape where
  /-- A character; in a pattern of bytes it may be a single byte. -/
  | literal (c : Char) (isByte : Bool)
  /-- A class of characters, or all others. -/
  | charClass (negated : Bool)
  /-- The start or the end of the text. -/
  | edge
  /-- A border of a word, or a place that is none. -/
  | wordEdge
deriving DecidableEq, Repr

/-- A row of so many hexadecimal digits. -/
def hexDigits (flags : Flags) : Nat → Reading (List Char)
  | 0 => return []
  | count + 1 => do
    padding flags
    let digit ← next
    return digit :: (← hexDigits flags count)

/-- The character whose code point is written with so many digits. -/
def codePoint (flags : Flags) (count : Nat) : Reading Char := do
  let digits ← hexDigits flags count
  match Text.valueIn? 16 digits with
  | some n => if n.isValidChar then return Char.ofNat n else failure
  | none => failure

/-- **An escape**, after the backslash. Other than in a few escapes with a
meaning of their own, only signs of ASCII are escaped. -/
def escape (flags : Flags) : Reading Escape := do
  let c ← next
  match c with
  | 'x' =>
    let c ← codePoint flags 2
    return .literal c (0x80 ≤ c.toNat)
  | 'u' => return .literal (← codePoint flags 4) false
  | 'U' => return .literal (← codePoint flags 8) false
  | 'd' | 's' | 'w' => return .charClass false
  | 'D' | 'S' | 'W' => return .charClass true
  | 'a' => return .literal '\x07' false
  | 'f' => return .literal '\x0c' false
  | 't' => return .literal '\t' false
  | 'n' => return .literal '\n' false
  | 'r' => return .literal '\r' false
  | 'v' => return .literal '\x0b' false
  | 'A' | 'z' => return .edge
  | 'b' | 'B' | '<' | '>' => return .wordEdge
  | _ =>
    guard (c.toNat < 0x80 && !c.isAlphanum)
    return .literal c false

/-! ## Classes in brackets -/

/-- The names of classes of ASCII characters. -/
def classNames : List String :=
  ["alnum", "alpha", "ascii", "blank", "cntrl", "digit", "graph", "lower", "print",
    "punct", "space", "upper", "word", "xdigit"]

/-- A class by its name, with its brackets and colons: whether all others are
meant. -/
def namedClass : Reading Bool := do
  guard (← skip "[:")
  let negated ← skip "^"
  let name ← span (· ≠ ':')
  guard (← skip ":]")
  guard (classNames.contains (String.ofList name))
  return negated

/-- Whether a class may have an escape or a character as a member. -/
def allowsMember (flags : Flags) : Escape → Bool
  | .literal c _ => flags.allowsLiteral && (flags.unicode || c.toNat < 0x80)
  | .charClass negated => !flags.unicode && !negated
  | .edge | .wordEdge => false

/-- A member of a class, or an end of a range. -/
def member (flags : Flags) : Reading Escape := do
  let member ← if ← skip "\\" then escape flags else pure (.literal (← next) false)
  guard (allowsMember flags member)
  return member

/-- What comes next but for a minus sign and what does not count. -/
def afterMinus (flags : Flags) : Reading (Option Char) := do
  let chars ← get
  let _ ← skip "-"
  padding flags
  let found ← peek
  set chars
  return found

/-- **A member of a class or a range.** A minus sign before the closing bracket
or before another one makes no range. -/
def range (flags : Flags) : Reading Unit := do
  let first ← member flags
  padding flags
  let after ← afterMinus flags
  if (← peek) = some '-' && after ≠ some ']' && after ≠ some '-' then
    let _ ← next
    padding flags
    match first, ← member flags with
    | .literal first _, .literal last _ => guard (first ≤ last)
    | _, _ => failure

/-- Minus signs, each a member of a class: how many. -/
def minusSigns (flags : Flags) : Nat → Reading Nat
  | 0 => return 0
  | fuel + 1 => do
    if ← skip "-" then
      guard flags.allowsLiteral
      padding flags
      return (← minusSigns flags fuel) + 1
    else return 0

/-- **The start of a class**, after its bracket. Minus signs there are members,
and so is a closing bracket that comes first. The bytes outside a class are not
all text. -/
def openClass (flags : Flags) : Reading Unit := do
  padding flags
  if ← skip "^" then
    guard flags.unicode
    padding flags
  let signs ← minusSigns flags ((← get).length + 1)
  if signs = 0 then
    if ← skip "]" then
      guard flags.allowsLiteral
      padding flags

/-- **The rest of a class**, in which so many others are open. -/
def classRest (flags : Flags) : (fuel depth : Nat) → Reading Unit
  | 0, _ => failure
  | fuel + 1, depth => do
    padding flags
    if ← skip "]" then
      match depth with
      | 0 => return
      | depth + 1 => classRest flags fuel depth
    else if ← skipAny ["&&", "--", "~~"] then
      classRest flags fuel depth
    else match namedClass.run (← get) with
      | some (negated, rest) =>
        guard (flags.allowsLiteral && (flags.unicode || !negated))
        set rest
        classRest flags fuel depth
      | none =>
        if ← skip "[" then
          openClass flags
          classRest flags fuel (depth + 1)
        else
          range flags
          classRest flags fuel depth

/-! ## Groups -/

/-- **What reading has come to.** -/
structure Progress where
  /-- The flags in force. -/
  flags : Flags
  /-- The flags in force around each open group, from the inside. -/
  around : List Flags
  /-- Whether something stands there that could be repeated. -/
  repeatable : Bool
  /-- The names of groups so far. -/
  names : List (List Char)

namespace Progress

/-- Nothing read yet. -/
def start : Progress := ⟨.standard, [], false, []⟩

/-- Inside a new group with flags of its own. -/
def enter (progress : Progress) (flags : Flags) : Progress :=
  { progress with flags, around := progress.flags :: progress.around, repeatable := false }

/-- Whether what comes next can be repeated. -/
def before (progress : Progress) (repeatable : Bool) : Progress :=
  { progress with repeatable }

end Progress

/-- The name of a group: letters and digits of any script, and a few signs, of
which only the underscore may come first. -/
def isName : List Char → Bool
  | [] => false
  | first :: rest =>
    (first = '_' || Text.isLetter first)
      && rest.all fun c => c ∈ ['_', '.', '[', ']'] || Text.isLetterOrDigit c

/-- The letters of flags, no letter twice, with a minus sign before others at
most. -/
def areFlags (letters : List Char) : Bool :=
  letters.all (· ∈ ['i', 'm', 's', 'U', 'u', 'x', 'R', '-'])
    && decide letters.Nodup && letters.getLast? ≠ some '-'

/-- **What follows the opening bracket of a group.** A look ahead or back is not
possible. Flags without a group hold up to the end of the group around them. -/
def group (progress : Progress) : Reading Progress := do
  padding progress.flags
  if ← skipAny ["?=", "?!", "?<=", "?<!"] then failure
  else if ← skipAny ["?P<", "?<"] then
    let name ← span (· ≠ '>')
    expect '>'
    guard (isName name && !progress.names.contains name)
    return { progress.enter progress.flags with names := name :: progress.names }
  else if ← skip "?" then
    let letters ← span fun c => c ≠ ':' && c ≠ ')'
    guard (areFlags letters)
    let flags := progress.flags.change letters
    if (← next) = ':' then return progress.enter flags
    guard !letters.isEmpty
    return { progress with flags, repeatable := false }
  else return progress.enter progress.flags

/-! ## Patterns -/

/-- Whether a pattern may have an escape outside classes. -/
def allowsEscape (flags : Flags) : Escape → Bool
  | .literal _ isByte => flags.allowsLiteral && (flags.unicode || !isByte)
  | .charClass negated => !flags.unicode && !negated
  | .edge => true
  | .wordEdge => !flags.unicode

/-- **A step of reading a pattern**, from the character that comes next. A
number of repetitions would have a closing brace, which no value contains. -/
def step (progress : Progress) : Reading Progress := do
  let flags := progress.flags
  match ← next with
  | '(' => group progress
  | ')' =>
    match progress.around with
    | [] => failure
    | outer :: around => return { progress with flags := outer, around, repeatable := true }
  | '|' => return progress.before false
  | '[' =>
    openClass flags
    classRest flags ((← get).length + 1) 0
    return progress.before true
  | '?' | '*' | '+' =>
    guard progress.repeatable
    return progress
  | '\x7b' => failure
  | '\\' =>
    guard (allowsEscape flags (← escape flags))
    return progress.before true
  | '.' =>
    guard flags.unicode
    return progress.before true
  | '^' | '$' => return progress.before true
  | _ =>
    guard flags.allowsLiteral
    return progress.before true

/-- The steps of reading a pattern, to its end. -/
def steps : Nat → Progress → Reading Progress
  | 0, _ => failure
  | fuel + 1, progress => do
    padding progress.flags
    if (← get).isEmpty then return progress
    steps fuel (← step progress)

/-- **Whether a text is a well-formed pattern.** -/
def isWellFormed (chars : List Char) : Bool :=
  ((steps (chars.length + 1) .start).whole? chars).any (·.around.isEmpty)

end Pattern

end FeatureGate.Log
