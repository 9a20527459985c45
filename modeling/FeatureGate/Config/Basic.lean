import Std.Data.ExtTreeMap.Lemmas
import FeatureGate.Error
import FeatureGate.Instant.Basic

/-!
# Configuration

The settings of a resolver. They are read from a document or from the
environment, or set one by one; whatever they were read from, the range of the
warning window is checked before they are used.
-/

namespace FeatureGate

/-- **The settings of a resolver.** -/
structure Config where
  /-- What stores that name their keys put in front of them. -/
  keyPrefix : String
  /-- The aliases of entity kinds. -/
  entityAliases : Std.ExtTreeMap String String
  /-- Warn when a feature is defined that expires within so many days. -/
  warningDays : Option Int
  /-- Whether events are delivered. -/
  emitEvents : Bool
deriving DecidableEq

namespace Config

/-- **The settings nobody has to make.** -/
def standard : Config := ⟨"features", ∅, some 7, true⟩

instance : Inhabited Config := ⟨standard⟩

/-- Whether a number of days fits a signed word of sixty-four bits. What is read
as a setting has to, before its range is looked at. -/
def isWord (days : Int) : Bool :=
  -9223372036854775808 ≤ days && days ≤ 9223372036854775807

/-- **Check the ranges**: the warning window is a duration and not negative. -/
def validate (config : Config) : Except FeatureError Unit :=
  match config.warningDays with
  | some days =>
    if days < 0 || !Instant.isDuration days then
      .error (.configStated ("expiring_soon_warning_days out of range: " ++ toString days))
    else .ok ()
  | none => .ok ()

end Config

end FeatureGate
