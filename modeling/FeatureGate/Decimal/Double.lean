/-!
# Finite doubles

A payload number that is no 64-bit integer is an IEEE 754 binary64 number. A
`Double` holds one as a sign and a **magnitude**: the sixty-three low bits of
its encoding, biased exponent above fraction. Magnitudes are ordered as the
numbers they stand for, so the magnitude after `d` is the next double up, and
"finite" is one inequality.

The number itself is `significand * 2 ^ scale / 2 ^ 1074`. All arithmetic here
is exact arithmetic on natural numbers followed by one rounding to nearest,
ties to the even neighbour (`ofRatio?`); nothing depends on the machine's
floating point.
-/

namespace FeatureGate

/-- How many magnitudes there are from a power of two up to the next one: two to
the power fifty-two. -/
abbrev Double.binadeSize : Nat := 4503599627370496

/-- A finite binary64 number: its sign and the other sixty-three bits of its
encoding. -/
structure Double where
  /-- The sign bit; zero has both signs. -/
  negative : Bool
  /-- Biased exponent and fraction, read as one number. -/
  magnitude : Nat
  /-- The biased exponent 2047, which infinities and NaN have, is excluded. -/
  finite : magnitude < 2047 * Double.binadeSize
deriving DecidableEq, Repr

namespace Double

/-- The double `0.0`. -/
def zero : Double := ⟨false, 0, by decide⟩

instance : Inhabited Double := ⟨zero⟩

/-- Whether the number is zero, of either sign. -/
def isZero (d : Double) : Bool := d.magnitude == 0

/-- The power of two the significand is scaled by, counted from `2 ^ -1074`. -/
def scale (d : Double) : Nat := d.magnitude / binadeSize - 1

/-- The integer significand: with the implicit leading bit, except for the
subnormal numbers. -/
def significand (d : Double) : Nat := d.magnitude - d.scale * binadeSize

/-- **Numeric equality**: zero equals zero whatever its sign, and any other
number equals itself alone. -/
def equal (a b : Double) : Bool :=
  a.magnitude == b.magnitude && (a.negative == b.negative || a.magnitude == 0)

/-- The integer nearest to `num / den`, a tie going to the even neighbour. -/
def roundRatio (num den : Nat) : Nat :=
  let floor := num / den
  let rest := 2 * (num % den)
  if rest < den then floor
  else if den < rest then floor + 1
  else if floor % 2 = 0 then floor else floor + 1

/-- **The double nearest to** `num / den`, a tie going to the even significand;
`none` when it rounds past the largest finite double. The significand is
rounded on the grid of the binade the quotient lies in, so that a carry into
the next binade is a carry of the magnitude. -/
def ofRatio? (num den : Nat) : Option Double :=
  let scaled := num * Nat.pow 2 1074
  let binade := (scaled / den).log2 - 52
  let magnitude := binade * binadeSize + roundRatio scaled (den * Nat.pow 2 binade)
  if h : magnitude < 2047 * binadeSize then some ⟨false, magnitude, h⟩ else none

/-- The double nearest to a natural number, if it is finite. -/
def ofNat? (n : Nat) : Option Double := ofRatio? n 1

/-- The product of two magnitudes, rounded to nearest. -/
def mul? (a b : Double) : Option Double :=
  ofRatio? (a.significand * b.significand * Nat.pow 2 (a.scale + b.scale)) (Nat.pow 2 2148)

/-- The quotient of two magnitudes, rounded to nearest; the divisor is not
zero. -/
def div? (a b : Double) : Option Double :=
  ofRatio? (a.significand * Nat.pow 2 a.scale) (b.significand * Nat.pow 2 b.scale)

end Double

end FeatureGate
