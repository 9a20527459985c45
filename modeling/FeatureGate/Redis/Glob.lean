/-!
# Glob patterns

How a server matches keys against a pattern. Patterns and keys are compared
byte by byte. A star stands for any bytes, a question mark for one; a set in
brackets stands for one of the bytes it names, singly or as a range, or for one
it does not name if a caret comes first; a backslash takes away the meaning of
what follows it. A set that is not closed ends with the pattern.
-/

namespace FeatureGate.Redis

/-- The bytes of a text, each as the character with that number. -/
def bytes (text : String) : List Char :=
  text.toUTF8.toList.map fun byte => Char.ofNat byte.toNat

namespace Glob

/-- **A part of a pattern.** -/
inductive Part where
  /-- Any bytes. -/
  | star
  /-- Any one byte. -/
  | any
  /-- One byte. -/
  | byte (value : Char)
  /-- One byte in some ranges, or in none of them. -/
  | set (negated : Bool) (ranges : List (Char × Char))
deriving DecidableEq, Repr

/-- The ranges of a set, and the pattern after it. -/
def splitSet : List Char → List (Char × Char) × List Char
  | [] => ([], [])
  | '\\' :: c :: rest =>
    let (ranges, left) := splitSet rest
    ((c, c) :: ranges, left)
  | ']' :: rest => ([], rest)
  | low :: '-' :: high :: rest =>
    let (ranges, left) := splitSet rest
    ((if high < low then (high, low) else (low, high)) :: ranges, left)
  | c :: rest =>
    let (ranges, left) := splitSet rest
    ((c, c) :: ranges, left)

theorem length_splitSet_le (pattern : List Char) :
    (splitSet pattern).2.length ≤ pattern.length := by
  fun_induction splitSet pattern <;> simp_all <;> omega

/-- **The parts of a pattern.** -/
def parts : List Char → List Part
  | [] => []
  | '*' :: rest => .star :: parts rest
  | '?' :: rest => .any :: parts rest
  | '[' :: '^' :: rest =>
    have := length_splitSet_le rest
    .set true (splitSet rest).1 :: parts (splitSet rest).2
  | '[' :: rest =>
    have := length_splitSet_le rest
    .set false (splitSet rest).1 :: parts (splitSet rest).2
  | '\\' :: c :: rest => .byte c :: parts rest
  | c :: rest => .byte c :: parts rest
termination_by pattern => pattern.length
decreasing_by all_goals simp only [List.length_cons]; omega

/-- Whether a part stands for a byte. -/
def Part.holds : Part → Char → Bool
  | star, _ | any, _ => true
  | byte value, c => value == c
  | set negated ranges, c =>
    (ranges.any fun (low, high) => low ≤ c && c ≤ high) != negated

/-- **Whether parts match bytes**, all of them. -/
def accepts : List Part → List Char → Bool
  | [], chars => chars.isEmpty
  | .star :: parts, chars => (List.range (chars.length + 1)).any fun n =>
    accepts parts (chars.drop n)
  | part :: parts, c :: rest => part.holds c && accepts parts rest
  | _ :: _, [] => false

end Glob

/-- **Whether a key matches a pattern** by the rules of patterns. -/
def globMatches (pattern key : String) : Bool :=
  Glob.accepts (Glob.parts (bytes pattern)) (bytes key)

/-- Whether a key begins as a pattern says before its last character, a star. For a
prefix without special characters, a colon and a star, it is the same as matching. -/
def literalMatches (pattern key : String) : Bool :=
  pattern.toList.dropLast.isPrefixOf key.toList

end FeatureGate.Redis
