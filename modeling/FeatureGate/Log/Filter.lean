import FeatureGate.Log.Message
import FeatureGate.Log.Pattern

/-!
# Log filters

A filter says which messages are shown. It is a list of directives, separated by
commas. A directive names a level, or a place and its level, or a place alone,
whose messages are then shown at every level. It is about all places whose names
begin with the one it names, or about all places; and it may be about messages
with a certain field only. Of the directives that are about a message the most
specific one counts; where there is none, the message is not shown.

A directive may also be about the spans in which messages arise, or about the
values of their fields: in brackets stands the name of a span, and in braces a
field and perhaps its value. There are no spans here, so such a directive makes
nothing be shown. A filter with a directive that cannot be read is no filter.
-/

namespace FeatureGate.Log

open Text (Reading isBlank)
open Text.Reading

/-- **A directive**: messages pass from a level on. -/
structure Directive where
  /-- What the names of their places begin with. -/
  place : List Char
  /-- A field they have, if that matters. -/
  field : Option String
  /-- The least level of messages shown. -/
  level : Level
deriving DecidableEq, Repr

namespace Directive

/-! ## What a directive is about -/

/-- Whether a directive is about a message. -/
def isAbout (directive : Directive) (message : Message) : Bool :=
  directive.place.isPrefixOf message.place.toList
    && directive.field.all message.fields.contains

/-- Whether a field is no less specific than another one: any field is more so
than none, and a later name more than an earlier one. -/
def fieldLe : Option String → Option String → Bool
  | none, _ => true
  | some _, none => false
  | some field, some other => !decide (other < field)

/-- **Whether a directive gives way to another one** that is about the same
message: the other one names a longer place, or the same place and a field that
is no less specific. -/
def givesWayTo (directive other : Directive) : Bool :=
  directive.place.length < other.place.length
    || (directive.place.length = other.place.length
      && fieldLe directive.field other.field)

/-! ## How a directive is made up -/

/-- **A part of a text**: after how many characters it starts, and after how many
it stops, unless it goes to the end. -/
structure Part where
  /-- The number of characters before its start. -/
  start : Nat
  /-- The number of characters before its end. -/
  stop : Option Nat
deriving DecidableEq, Repr

/-- The characters of a part of a text. -/
def Part.ofText (part : Part) (chars : List Char) : List Char :=
  (match part.stop with
    | some stop => chars.take stop
    | none => chars).drop part.start

/-- **The make-up of a directive** with brackets or an equals sign. -/
structure Outline where
  /-- The place. -/
  place : Part
  /-- Whether it names a span. -/
  named : Bool
  /-- The field and its value, if it has braces. -/
  condition : Option Part
  /-- The level, if it has an equals sign at the end. -/
  level : Option Part
deriving DecidableEq, Repr

/-- How many of so many characters are read. -/
def position (length : Nat) : Reading Nat := return length - (← get).length

/-- The part up to a character with a property, or up to the end. -/
def part (length : Nat) (stops : Char → Bool) : Reading Part := do
  let start ← position length
  skipWhile fun c => !stops c
  return ⟨start, some (← position length)⟩

/-- What follows an equals sign, if one comes next. -/
def assigned (length : Nat) : Reading (Option Part) := do
  if ← skip "=" then
    let start ← position length
    skipWhile fun _ => true
    return some ⟨start, none⟩
  else return none

/-- **The make-up of a directive** of so many characters; none if it is a level
or a place alone. -/
def outline (length : Nat) : Reading (Option Outline) := do
  let place ← part length fun c => c = '=' || c = '['
  if ← skip "[" then
    let name ← part length fun c => c = ']' || c = '\x7b'
    if ← skip "]" then return some ⟨place, true, none, ← assigned length⟩
    expect '\x7b'
    let condition ← part length (· = '\x7d')
    guard (condition.stop ≠ some condition.start)
    expect '\x7d'
    expect ']'
    return some ⟨place, name.stop ≠ some name.start, some condition, ← assigned length⟩
  else if (← peek).isSome then
    return some ⟨place, false, none, ← assigned length⟩
  else return none

/-! ## Reading -/

/-- The level a directive names, by its name in any case or by its number. -/
def level? (chars : List Char) : Option Level :=
  let digits := if chars.head? = some '+' then chars.tail else chars
  if !digits.isEmpty && digits.all Char.isDigit then
    [Level.off, .error, .warn, .info, .debug, .trace][Text.value digits]?
  else Level.ofName? (String.ofList chars).toLower

/-- A number without a sign: one of the words for what is no finite number, or
digits, among them perhaps a point, and an exponent if there is one. -/
def number : Reading Unit := do
  if (String.ofList (← get)).toLower ∈ ["inf", "infinity", "nan"] then
    set ([] : List Char)
  else
    let whole ← span Char.isDigit
    let places ← if ← skip "." then span Char.isDigit else pure []
    guard !(whole ++ places).isEmpty
    if ← skipAny ["e", "E"] then
      let _ ← skipAny ["+", "-"]
      guard !(← span Char.isDigit).isEmpty

/-- **Whether something may be asked for as a value.** A truth value, a number or
a pattern may; all of these are patterns, but for numbers with a plus sign. -/
def isValue (chars : List Char) : Bool :=
  match chars with
  | '+' :: rest => (number.whole? rest).isSome
  | _ => Pattern.isWellFormed chars

/-- **A condition in braces**: the name of a field, and whether a value is asked
for, after an equals sign. What follows a second equals sign does not count. -/
def condition? (chars : List Char) : Option (String × Bool) := do
  let name := chars.takeWhile (· ≠ '=')
  match chars.dropWhile (· ≠ '=') with
  | [] => return (String.ofList name, false)
  | _ :: rest =>
    guard (isValue (rest.takeWhile (· ≠ '=')))
    return (String.ofList name, true)

/-- Whether a directive may begin with a character: a bracket, a letter or digit
of any script, or one of three signs. -/
def mayBegin (c : Char) : Bool :=
  c ∈ ['[', '-', ':', '_'] || Text.isLetterOrDigit c

/-- **The directive of a text**, or none if it is about spans or about values.

The make-up of a directive is that of the text without the blanks around it, but
its parts are counted off in the text with them. So a level is not followed by
blanks; and behind blanks a level after an equals sign cannot be read, for it
would begin too early. -/
def ofText? (text : String) : Option (Option Directive) := do
  let chars := text.toList
  let trimmed := (Text.trim text).toList
  guard (trimmed.head?.any mayBegin)
  match ← (outline trimmed.length).whole? trimmed with
  | none =>
    match level? chars with
    | some level => return some ⟨[], none, level⟩
    | none => return some ⟨chars, none, .trace⟩
  | some outline =>
    let condition ← outline.condition.mapM fun part => condition? (part.ofText chars)
    let level ← match (outline.level.map (·.ofText chars)).getD [] with
      | [] => some .trace
      | level => level? level
    if outline.named || condition.any (·.2) then return none
    return some ⟨outline.place.ofText chars, condition.map (·.1), level⟩

end Directive

/-- **A filter**: its directives, in order. -/
structure Filter where
  /-- The directives that are about neither spans nor values. -/
  directives : List Directive
deriving DecidableEq, Repr

namespace Filter

/-- **The filter of a text.** Empty directives are passed over. -/
def ofText? (text : String) : Option Filter := do
  let directives ← ((text.splitOn ",").filter (!·.isEmpty)).mapM Directive.ofText?
  return ⟨directives.filterMap id⟩

/-- The directive that counts for a message: of those that are about it the last
one of the most specific ones. -/
def directive? (filter : Filter) (message : Message) : Option Directive :=
  (filter.directives.filter (·.isAbout message)).foldl
    (fun best directive =>
      if best.all (·.givesWayTo directive) then some directive else best) none

/-- **The least level of messages shown** that are like a given one. -/
def level (filter : Filter) (message : Message) : Level :=
  ((filter.directive? message).map (·.level)).getD .off

end Filter

end FeatureGate.Log
