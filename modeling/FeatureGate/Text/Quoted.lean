import FeatureGate.Text.Visible

/-!
# Quoted texts

A text as it is shown for inspection: between double quotes, with quotes and
backslashes escaped, a few controls by their letter, and any other character
that is not visible by its code point in hexadecimal.
-/

namespace FeatureGate.Text

/-- A number in lower-case hexadecimal. -/
def hexadecimal (n : Nat) : List Char := Nat.toDigits 16 n

/-- How a character is shown inside a quoted text. -/
def showChar (c : Char) : List Char :=
  if c = '\x00' then ['\\', '0']
  else if c = '\t' then ['\\', 't']
  else if c = '\r' then ['\\', 'r']
  else if c = '\n' then ['\\', 'n']
  else if c = '"' then ['\\', '"']
  else if c = '\\' then ['\\', '\\']
  else if isVisible c then [c]
  else '\\' :: 'u' :: '\x7b' :: hexadecimal c.toNat ++ ['\x7d']

/-- **A text between quotes**, as it is shown for inspection. -/
def quoted (s : String) : String :=
  String.ofList ('"' :: s.toList.flatMap showChar ++ ['"'])

end FeatureGate.Text
