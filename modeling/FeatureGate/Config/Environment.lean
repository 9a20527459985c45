import FeatureGate.Config.Basic
import FeatureGate.Environment
import FeatureGate.Text.Blank
import FeatureGate.Text.Digits

/-!
# Configuration from the environment

Two settings can be made in the environment: the prefix of stored keys, and the
warning window, a number of days or a word that switches the warning off. The
window is trimmed first, and its words may be written in any case. No character
outside ASCII is the capital of a letter in one of these words, so the case of
ASCII letters is all that matters.
-/

namespace FeatureGate.Config

/-- The variable that holds the prefix of stored keys. -/
def keyPrefixVariable : String := "FLAGPOLE_STORE_PREFIX"

/-- The variable that holds the warning window. -/
def warningDaysVariable : String := "FLAGPOLE_EXPIRY_WARNING_DAYS"

/-- The number of days a word stands for. -/
def daysOfWord? (word : String) : Option Int := (Text.signed? word.toList).filter isWord

/-- **The warning window of a text**: none if the text is blank or switches the
warning off. -/
def warningDaysOf (text : String) : Except FeatureError (Option Int) :=
  let word := (Text.trim text).toLower
  if word = "" ∨ word = "off" ∨ word = "none" then .ok none
  else match daysOfWord? word with
    | some days => .ok (some days)
    | none => .error (.configStated
        (warningDaysVariable ++ " must be a number of days, got '" ++ text ++ "'"))

/-- **The configuration of an environment**: the standard one, with what the
environment sets, checked. -/
def ofEnvironment (environment : Environment) : Except FeatureError Config := do
  let keyPrefix := (environment.text? keyPrefixVariable).getD standard.keyPrefix
  let warningDays ← match environment.text? warningDaysVariable with
    | some text => warningDaysOf text
    | none => pure standard.warningDays
  let config := { standard with keyPrefix, warningDays }
  config.validate
  return config

end FeatureGate.Config
