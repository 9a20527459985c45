/-!
# Blank characters

Names, environment values and log settings are trimmed before they are read,
and a feature whose name is blank may not be registered. *Blank* means the
Unicode property `White_Space`, not the ASCII blanks alone: twenty-five code
points, spelled out in `isBlank`.

Every character core calls white space is blank (`isBlank_of_isWhitespace`). A
text is blank if all of its characters are, which is to say that trimming leaves
nothing of it.
-/

namespace FeatureGate.Text

/-- **Blank characters**: the code points with the Unicode property
`White_Space`. -/
def isBlank (c : Char) : Bool :=
  let n := c.toNat
  (9 ≤ n && n ≤ 13) || n == 0x20 || n == 0x85 || n == 0xA0 || n == 0x1680
    || (0x2000 ≤ n && n ≤ 0x200A) || n == 0x2028 || n == 0x2029
    || n == 0x202F || n == 0x205F || n == 0x3000

/-- The table holds everything core counts as white space. -/
theorem isBlank_of_isWhitespace {c : Char} (h : c.isWhitespace = true) :
    isBlank c = true := by
  simp only [Char.isWhitespace, Bool.or_eq_true, decide_eq_true_eq] at h
  rcases h with ((rfl | rfl) | rfl) | rfl <;> rfl

/-- Drop the blank characters at the end. -/
def trimEnd (s : String) : String :=
  String.ofList (s.toList.reverse.dropWhile isBlank).reverse

/-- Drop the blank characters at both ends. -/
def trim (s : String) : String :=
  trimEnd (String.ofList (s.toList.dropWhile isBlank))

/-- Whether nothing is left of a text once it is trimmed. -/
def isBlankText (s : String) : Bool :=
  s.toList.all isBlank

end FeatureGate.Text
