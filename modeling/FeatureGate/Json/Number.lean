import FeatureGate.Decimal.Shortest
import FeatureGate.Text.Digits

/-!
# JSON numbers

A payload number is an integer if it fits sixty-four bits, signed or unsigned,
and has neither fraction nor exponent; any other number is a double. So `1`
and `1.0` are different values, and `-0` is the double `-0.0`.

A `Numeral` is the written form taken apart. Reading one as a double is not a
single rounding: the leading digits that fit an unsigned sixty-four bit word
are rounded, and the result is scaled by a power of ten with a second rounding
(`Numeral.toDouble?`). Numbers of up to fifteen digits with a small exponent
come out nearest all the same; longer ones may end up next to nearest, which is
why laws on reading back what was written are stated for integers.
-/

namespace FeatureGate.Json

/-- **A JSON number**: a sixty-four bit integer or a finite double. -/
inductive Number where
  /-- An integer that is a signed or an unsigned sixty-four bit word. -/
  | integer (value : Int)
      (inRange : -9223372036854775808 ≤ value ∧ value < 18446744073709551616)
  /-- Any other number. -/
  | double (value : Double)
deriving DecidableEq, Repr

namespace Number

instance : Inhabited Number := ⟨.integer 0 (by decide)⟩

/-- The number of a natural number below `2 ^ 64`, clamped to the largest. -/
def ofNat (n : Nat) : Number :=
  .integer (min n 18446744073709551615) (by omega)

/-- How doubles are laid out in JSON: positionally from `1e-5` up to, but not
including, `1e16`, and elsewhere with a signed exponent. -/
def layout : Decimal.Layout := ⟨-5, 16, true⟩

/-- The text of a number. -/
def text : Number → String
  | integer value _ => toString value
  | double value => layout.writeDouble value

/-- **Equality of payload numbers**: integers and doubles never equal each
other, and doubles are compared as numbers. -/
def equal : Number → Number → Bool
  | integer a _, integer b _ => a == b
  | double a, double b => a.equal b
  | _, _ => false

/-- The number as a natural number below `bound`; doubles are none. -/
def toNatBelow? (bound : Nat) : Number → Option Nat
  | integer (.ofNat n) _ => if n < bound then some n else none
  | _ => none

/-- The number as an integer. -/
def toInt? : Number → Option Int
  | integer value _ => some value
  | double _ => none

end Number

/-! ## Numerals -/

/-- A written number taken apart. -/
structure Numeral where
  /-- Whether it starts with a minus sign. -/
  negative : Bool
  /-- The digits before the point, without a superfluous leading zero. -/
  whole : List Char
  /-- The digits after the point, if there is one. -/
  fraction : Option (List Char)
  /-- The exponent, if there is one. -/
  exponent : Option Int
deriving Repr

namespace Numeral

/-- An optional point and the digits after it: the digits and what follows. -/
def splitFraction : List Char → Option (Option (List Char) × List Char)
  | '.' :: rest =>
    let digits := rest.takeWhile Char.isDigit
    if digits.isEmpty then none else some (some digits, rest.dropWhile Char.isDigit)
  | rest => some (none, rest)

/-- Take a written number apart; `none` if it breaks the grammar. -/
def parse? (cs : List Char) : Option Numeral := do
  let (negative, unsigned) := match cs with
    | '-' :: rest => (true, rest)
    | rest => (false, rest)
  let whole := unsigned.takeWhile Char.isDigit
  guard (!whole.isEmpty && (whole.head? != some '0' || whole.length == 1))
  let (fraction, rest) ← splitFraction (unsigned.dropWhile Char.isDigit)
  match rest with
  | [] => some ⟨negative, whole, fraction, none⟩
  | e :: rest =>
    guard (e == 'e' || e == 'E')
    let exponent ← Text.signed? rest
    some ⟨negative, whole, fraction, some exponent⟩

/-- The leading digits of a numeral as one word, and the power of ten they are
scaled by. -/
structure Leading where
  /-- The digits kept. -/
  digits : Nat
  /-- The power of ten. -/
  power : Int

/-- Append the digits of one part while the word still fits sixty-four bits;
after the first digit that does not fit, the others of the part are left out
too. `kept` and `dropped` say how one digit of either kind changes the power. -/
def Leading.append (kept dropped : Int) : Leading → List Char → Leading
  | lead, [] => lead
  | lead, c :: rest =>
    let digits := 10 * lead.digits + (c.toNat - '0'.toNat)
    if digits < UInt64.size then append kept dropped ⟨digits, lead.power + kept⟩ rest
    else ⟨lead.digits, lead.power + dropped * (rest.length + 1)⟩

/-- The leading digits of a numeral. A digit left out before the point still
counts for the power; one left out after it does not. -/
def leading (n : Numeral) : Leading :=
  ((Leading.append 0 1 ⟨0, 0⟩ n.whole).append (-1) 0 (n.fraction.getD []))

/-- Divide a magnitude by a power of ten, at most `10 ^ 308` at a time. -/
def scaleDown (d : Double) (power : Nat) : Option Double :=
  if d.isZero then some d
  else if power ≤ 308 then do d.div? (← Double.ofNat? (Nat.pow 10 power))
  else do
    let smaller ← d.div? (← Double.ofNat? (Nat.pow 10 308))
    scaleDown smaller (power - 308)
termination_by power

/-- Scale a magnitude by a power of ten; `none` past the largest double. -/
def scaleByTen (d : Double) : Int → Option Double
  | .ofNat power =>
    if d.isZero then some d
    else if power ≤ 308 then do d.mul? (← Double.ofNat? (Nat.pow 10 power))
    else none
  | .negSucc power => scaleDown d (power + 1)

/-- **Read a numeral as a double**: round its leading digits, then scale them.
Reading past the largest finite double fails. -/
def toDouble? (n : Numeral) : Option Double := do
  let lead := n.leading
  let rounded ← Double.ofNat? lead.digits
  let magnitude ← scaleByTen rounded (lead.power + n.exponent.getD 0)
  some { magnitude with negative := n.negative }

/-- **Read a numeral as a number**: as an integer if it has the form of one,
fits sixty-four bits and is not `-0`; as a double otherwise. -/
def toNumber? (n : Numeral) : Option Number :=
  let magnitude := Text.value n.whole
  let value : Int := if n.negative then -magnitude else magnitude
  if h : n.fraction = none ∧ n.exponent = none ∧ (n.negative = true → magnitude ≠ 0)
      ∧ (-9223372036854775808 ≤ value ∧ value < 18446744073709551616) then
    some (.integer value h.2.2.2)
  else n.toDouble?.map .double

end Numeral

/-- Read the text of a number. -/
def Number.ofText? (text : String) : Option Number := do
  (← Numeral.parse? text.toList).toNumber?

end FeatureGate.Json
