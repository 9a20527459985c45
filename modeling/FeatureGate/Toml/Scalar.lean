import FeatureGate.Decimal.Double
import FeatureGate.Text.Digits
import FeatureGate.Text.Reading
import FeatureGate.Toml.Basic

/-!
# TOML scalars without quotes

Truth values, numbers, and dates and times stand without quotes. Digits may be
grouped by underscores, each between two digits; one may also stand right behind
a sign. A whole number is decimal with an optional sign and no superfluous
leading zero, or hexadecimal, octal or binary without a sign. A number with a
fraction or an exponent is decimal.

How a scalar is written is one question, and what number it is another. A whole
number has to fit 128 bits, signed or unsigned, and any other number a double;
one that does not is unreadable, and so are a prefix without digits and a decimal
number grouped by its underscores as if it were hexadecimal.
-/

namespace FeatureGate.Toml

open Text (Reading)
open Text.Reading

/-- Whether every underscore stands between two digits, given whether one may
come first. -/
def areGrouped (isDigit : Char → Bool) : (mayBegin : Bool) → List Char → Bool
  | _, [] => true
  | mayBegin, '_' :: rest =>
    mayBegin && rest.head?.any isDigit && areGrouped isDigit false rest
  | _, c :: rest => areGrouped isDigit (isDigit c) rest

/-- The characters but for underscores. -/
def ungrouped (chars : List Char) : List Char := chars.filter (· ≠ '_')

/-- Whether a character is a digit in a base. -/
def isDigitIn (base : Nat) (c : Char) : Bool := (Text.digit? c).any (· < base)

/-! ## Whole numbers -/

/-- The item of a whole number. -/
def wholeItem (value : Int) : Item :=
  if value.natAbs < if value < 0 then Nat.pow 2 127 + 1 else Nat.pow 2 128 then
    .integer value
  else .unreadable

/-- The item of a whole number in another base, after its prefix. -/
def based? (base : Nat) (chars : List Char) : Option Item := do
  guard (chars.all fun c => isDigitIn base c || c = '_')
  guard (areGrouped (isDigitIn base) false chars)
  if chars.isEmpty then return .unreadable
  return wholeItem (← Text.valueIn? base (ungrouped chars))

/-- The item of a decimal whole number, given its sign and what follows the sign.
Its underscores may stand between digits of any base. -/
def decimal? (sign : Option Char) (chars : List Char) : Option Item := do
  guard (areGrouped (isDigitIn 16) sign.isSome chars)
  let digits := ungrouped chars
  if digits.all Char.isDigit then
    let value : Int := Text.value digits
    return wholeItem (if sign = some '-' then -value else value)
  else return .unreadable

/-! ## Numbers with a fraction or an exponent -/

/-- Whether digits scaled by a power of ten are less than any double. Powers far
from those of doubles are told by their size alone. -/
def fitsDouble (digits : List Char) (power : Int) : Bool :=
  let mantissa := Text.value digits
  let size := power + digits.length
  if mantissa = 0 ∨ size < -400 then true
  else if 400 < size then false
  else (Double.ofRatio? (mantissa * Nat.pow 10 power.toNat)
    (Nat.pow 10 (-power).toNat)).isSome

/-- The digits of a row of digits and underscores; there is one at least. -/
def digitRow : Reading (List Char) := do
  let digits := ungrouped (← span fun c => c.isDigit || c = '_')
  guard !digits.isEmpty
  return digits

/-- The exponent of a number, which is zero if there is none. -/
def exponent : Reading Int := do
  if ← skipAny ["e", "E"] then
    let negative ← skip "-"
    if !negative then
      let _ ← skip "+"
    let magnitude : Int := Text.value (← digitRow)
    return if negative then -magnitude else magnitude
  else return 0

/-- The digits of a number, and the power of ten that scales them. -/
def scientific : Reading (List Char × Int) := do
  let whole ← digitRow
  let places ← if ← skip "." then digitRow else pure []
  return (whole ++ places, (← exponent) - places.length)

/-- **The item of a number with a fraction or an exponent**, given its sign and
what follows the sign. -/
def float? (written : List Char) (sign : Option Char) (chars : List Char) :
    Option Item := do
  let (digits, power) ← scientific.whole? chars
  guard (areGrouped Char.isDigit sign.isSome chars)
  return if fitsDouble digits power then .float (String.ofList written) else .unreadable

/-! ## Scalars -/

/-- A sign, if there is one, and what follows it. -/
def splitSign : List Char → Option Char × List Char
  | '-' :: rest => (some '-', rest)
  | '+' :: rest => (some '+', rest)
  | rest => (none, rest)

/-- Whether a number begins with a zero that could be left out. -/
def hasLeadingZero (chars : List Char) : Bool :=
  chars.head? = some '0' && chars.tail.head?.any fun c => c.isDigit || c = '_'

/-- **The item of a decimal number or a moment**, given its sign and what follows
the sign. What it is shows behind its first digits. -/
def number? (written : List Char) (sign : Option Char) (chars : List Char) :
    Option Item := do
  let rest := chars.dropWhile Char.isDigit
  if rest.head? = some '-' || rest.head? = some ':' then
    return .moment (← moment.whole? written)
  guard (!rest.contains ' ' && !hasLeadingZero chars)
  if rest.any (· ∈ ['.', 'e', 'E']) then float? written sign chars
  else
    guard (rest.isEmpty || rest.head? = some '_')
    decimal? sign chars

/-- **The item of a scalar.** -/
def scalar? (chars : List Char) : Option Item :=
  if chars = "true".toList then some (.boolean true)
  else if chars = "false".toList then some (.boolean false)
  else
    let (sign, rest) := splitSign chars
    if rest = "inf".toList || rest = "nan".toList then
      some (.float (String.ofList chars))
    else match rest with
      | '0' :: 'x' :: digits => if sign.isNone then based? 16 digits else none
      | '0' :: 'o' :: digits => if sign.isNone then based? 8 digits else none
      | '0' :: 'b' :: digits => if sign.isNone then based? 2 digits else none
      | first :: _ =>
        if first.isDigit || first = '_' then number? chars sign rest else none
      | [] => none

end FeatureGate.Toml
