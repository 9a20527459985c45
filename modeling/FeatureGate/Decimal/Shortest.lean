import FeatureGate.Decimal.Double

/-!
# The shortest decimal of a double

A double is written with the fewest significant digits that read back as the
same double, and among those with the digits nearest to it. The reals that
round to a double form an interval, whose ends belong to it exactly when the
significand is even. For one digit, two, and so on up to seventeen, the two
neighbours of the number on the grid with that many digits are tested; the
first grid that meets the interval wins. If any point of a grid lies in the
interval, so does one of the two neighbours, so nothing shorter is missed.

How the digits are laid out – where scientific notation starts, how an exponent
is signed – is a decision of the format that writes them (`Layout`).
-/

namespace FeatureGate.Decimal

/-- A positive decimal `d₁.d₂… × 10 ^ exponent`: its digits, the last of them not
zero, and the exponent of the first one. -/
structure Scientific where
  /-- The significant digits, as one number. -/
  digits : Nat
  /-- The decimal exponent of the first digit. -/
  exponent : Int
deriving DecidableEq, Repr

/-- How many digits a number has in base ten; zero has one. -/
def digitCount (n : Nat) : Nat := (toString n).length

/-- The exponent of the first significant digit of the positive quotient
`num / den`. Below one it is found from the rounded-up reciprocal `t`, as the
least `j` with `t ≤ 10 ^ j`. -/
def leadingExponent (num den : Nat) : Int :=
  if den ≤ num then (digitCount (num / den) : Int) - 1
  else
    let reciprocal := (den + num - 1) / num
    Int.negOfNat (digitCount (reciprocal - 1))

/-- Drop the zeros a number ends with in base ten, at most `fuel` of them. -/
def dropTrailingZeros : Nat → Nat → Nat
  | 0, n => n
  | fuel + 1, n => if n ≠ 0 ∧ n % 10 = 0 then dropTrailingZeros fuel (n / 10) else n

/-- Multiply a quotient by a power of ten that may be negative. -/
def scaleByTen (num den : Nat) (power : Int) : Nat × Nat :=
  if 0 ≤ power then (num * Nat.pow 10 power.toNat, den)
  else (num, den * Nat.pow 10 (-power).toNat)

/-- The digits on the grid of `count` digits that lie in the interval around a
positive double, if there are any: the neighbour nearer to the number, and of
two equally near ones the even one. -/
def digitsOnGrid (d : Double) (count : Nat) : Option Scientific :=
  let unit := Nat.pow 2 d.scale
  let den := Nat.pow 2 1076
  let value := 4 * d.significand * unit
  let below := if d.significand = Double.binadeSize ∧ d.scale ≠ 0 then unit else 2 * unit
  let lead := leadingExponent value den
  let shift := (count : Int) - 1 - lead
  let (num, den') := scaleByTen value den shift
  let (low, _) := scaleByTen (value - below) den shift
  let (high, _) := scaleByTen (value + 2 * unit) den shift
  let inside (digits : Nat) : Bool :=
    if d.significand % 2 = 0 then low ≤ digits * den' && digits * den' ≤ high
    else low < digits * den' && digits * den' < high
  let down := num / den'
  let up := down + 1
  let toDown := num - down * den'
  let toUp := up * den' - num
  let preferDown := toDown < toUp || (toDown == toUp && down % 2 == 0)
  let pick (digits : Nat) : Scientific :=
    ⟨dropTrailingZeros count digits, (digitCount digits : Int) - 1 - shift⟩
  match inside down, inside up with
  | true, true => some (pick (if preferDown then down else up))
  | true, false => some (pick down)
  | false, true => some (pick up)
  | false, false => none

/-- **The shortest decimal** that reads back as a positive double. -/
def shortest (d : Double) : Scientific :=
  ((List.range 17).findSome? fun n => digitsOnGrid d (n + 1)).getD ⟨0, 0⟩

/-- **The decisions of a format** on how the digits of a double are laid out. -/
structure Layout where
  /-- The least exponent that is still written positionally. -/
  leastPositional : Int
  /-- The first exponent that is written in scientific notation again. -/
  leastScientific : Int
  /-- Whether a positive exponent carries a sign. -/
  signedExponent : Bool

/-- Write a positive decimal as a layout asks. A positional number always has a
fraction, `.0` if need be. -/
def Layout.write (layout : Layout) (s : Scientific) : String :=
  let digits := (toString s.digits).toList
  let text : List Char :=
    if layout.leastPositional ≤ s.exponent ∧ s.exponent < layout.leastScientific then
      if 0 ≤ s.exponent then
        let whole := s.exponent.toNat + 1
        let padded := digits ++ List.replicate (whole - digits.length) '0'
        let fraction := if digits.length ≤ whole then ['0'] else digits.drop whole
        padded.take whole ++ '.' :: fraction
      else
        '0' :: '.' :: List.replicate ((-s.exponent).toNat - 1) '0' ++ digits
    else
      let mantissa := match digits with
        | first :: second :: rest => first :: '.' :: second :: rest
        | short => short
      let sign := if s.exponent < 0 then ['-']
        else if layout.signedExponent then ['+'] else []
      mantissa ++ 'e' :: sign ++ (toString s.exponent.natAbs).toList
  String.ofList text

/-- Write a double as a layout asks; zero keeps its sign. -/
def Layout.writeDouble (layout : Layout) (d : Double) : String :=
  let magnitude := if d.isZero then "0.0" else layout.write (shortest d)
  if d.negative then "-" ++ magnitude else magnitude

end FeatureGate.Decimal
