import Std.Data.ExtTreeMap.Lemmas

/-!
# Environment variables

Settings may come from the environment: variables with a name and a text. A
variable that is set to the empty text is set all the same.
-/

namespace FeatureGate

/-- **The environment**: the texts of the variables that are set, by name. -/
abbrev Environment := Std.ExtTreeMap String String

namespace Environment

/-- The text of a variable, if it is set. -/
def text? (environment : Environment) (name : String) : Option String :=
  environment[name]?

/-- Whether a variable is set. -/
def isSet (environment : Environment) (name : String) : Bool :=
  (environment.text? name).isSome

/-- **A switch**: on if the variable is `1` or `true` in any case, off if it is
set to anything else. -/
def switch? (environment : Environment) (name : String) : Option Bool :=
  (environment.text? name).map fun text => text = "1" || text.toLower = "true"

end Environment

end FeatureGate
