/-!
# Digits

Rows of digits and the numbers they stand for. Only the ASCII digits count, and
the letters from `a` to `f`, in either case, where the base is sixteen.
-/

namespace FeatureGate.Text

/-- The number a row of decimal digits stands for. -/
def value (row : List Char) : Nat :=
  row.foldl (fun n c => 10 * n + (c.toNat - '0'.toNat)) 0

/-- The value of a digit, with letters for the values from ten to fifteen. -/
def digit? (c : Char) : Option Nat :=
  if c.isDigit then some (c.toNat - '0'.toNat)
  else if 'a' ≤ c ∧ c ≤ 'f' then some (c.toNat - 'a'.toNat + 10)
  else if 'A' ≤ c ∧ c ≤ 'F' then some (c.toNat - 'A'.toNat + 10)
  else none

/-- The number a row of digits stands for in a base, if all are digits of that
base. -/
def valueIn? (base : Nat) (row : List Char) : Option Nat :=
  row.foldlM (fun n c => do
    let digit ← digit? c
    guard (digit < base)
    return base * n + digit) 0

/-- **A whole number**: decimal digits, at least one, after an optional sign. -/
def signed? (chars : List Char) : Option Int := do
  let (negative, digits) := match chars with
    | '-' :: digits => (true, digits)
    | '+' :: digits => (false, digits)
    | digits => (false, digits)
  guard (!digits.isEmpty && digits.all Char.isDigit)
  let magnitude : Int := value digits
  return if negative then -magnitude else magnitude

/-- A number with at least `width` digits. -/
def padded (width n : Nat) : String :=
  let digits := toString n
  String.ofList (List.replicate (width - digits.length) '0') ++ digits

end FeatureGate.Text
