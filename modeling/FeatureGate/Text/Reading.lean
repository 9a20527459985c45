import FeatureGate.Text.Digits

/-!
# Reading from the left

Texts with a grammar are read by small steps from the left. A step consumes
characters or fails; a step that fails consumes nothing, since what is left of
the text is passed from step to step and not kept anywhere.
-/

namespace FeatureGate.Text

/-- **A step of reading**: the characters left go in, a result and the
characters left after it come out. -/
abbrev Reading := StateT (List Char) Option

namespace Reading

/-- The next character, left in place; none at the end. -/
def peek : Reading (Option Char) := return (← get).head?

/-- The next character. -/
def next : Reading Char := fun
  | c :: rest => some (c, rest)
  | [] => none

/-- A given character. -/
def expect (c : Char) : Reading Unit := do
  guard ((← next) == c)

/-- Pass over a given text if it comes next; whether it did. -/
def skip (text : String) : Reading Bool := do
  let chars ← get
  if text.toList.isPrefixOf chars then
    set (chars.drop text.length)
    return true
  else return false

/-- Pass over the first of some texts that comes next; whether one did. -/
def skipAny : List String → Reading Bool
  | [] => return false
  | text :: others => do
    if ← skip text then return true else skipAny others

/-- The characters that come next as long as they have a property. -/
def span (p : Char → Bool) : Reading (List Char) := fun chars =>
  some (chars.takeWhile p, chars.dropWhile p)

/-- Pass over characters as long as they have a property. -/
def skipWhile (p : Char → Bool) : Reading Unit := modify (·.dropWhile p)

/-- A row of at least one and at most `width` digits. -/
def digits (width : Nat) : Reading (List Char) := fun chars =>
  let row := (chars.take width).takeWhile Char.isDigit
  if row.isEmpty then none else some (row, chars.drop row.length)

/-- A row of exactly `width` digits. -/
def exactly (width : Nat) : Reading (List Char) := do
  let row ← digits width
  guard (row.length == width)
  return row

/-- The billionths after a decimal point, if one comes next. Digits past the
ninth are passed over. -/
def billionths : Reading Nat := do
  if ← skip "." then
    let row ← digits 9
    skipWhile Char.isDigit
    return value row * Nat.pow 10 (9 - row.length)
  else return 0

/-- The end of the text. -/
def finish : Reading Unit := do
  guard (← get).isEmpty

/-- **Read a whole text.** -/
def whole? {α : Type} (reading : Reading α) (chars : List Char) : Option α :=
  ((do let a ← reading; finish; return a : Reading α).run chars).map (·.1)

end Reading

end FeatureGate.Text
