import FeatureGate.Environment
import FeatureGate.Log.Level

/-!
# Log settings

What a log shows and how. The settings come from the environment; a level or a
format that cannot be read counts as not set. Without a level, debugging lowers
it. Without a word on colour there is colour on a terminal, unless the
environment forbids it.
-/

namespace FeatureGate.Log

/-- **The settings of a log.** -/
structure Settings where
  /-- Whether the process is being debugged. -/
  debug : Bool
  /-- The least level of messages shown. -/
  level : Level
  /-- How messages are shown. -/
  format : Format
  /-- Whether they are coloured. -/
  color : Bool
  /-- Whether it is shown where they come from. -/
  target : Bool
deriving DecidableEq, Repr

namespace Settings

/-- **The settings nobody has to make.** -/
def standard : Settings := ⟨false, .info, .json, false, true⟩

instance : Inhabited Settings := ⟨standard⟩

/-- **The settings of an environment.** -/
def ofEnvironment (environment : Environment) : Settings :=
  let debug := (environment.switch? "FLAGPOLE_DEBUG").getD false
  { debug
    level := ((environment.text? "FLAGPOLE_LOG_LEVEL").bind Level.ofText?).getD
      (if debug then .debug else .info)
    format := ((environment.text? "FLAGPOLE_LOG_FORMAT").bind Format.ofText?).getD .json
    color := (environment.switch? "FLAGPOLE_LOG_COLOR").getD
      (!environment.isSet "NO_COLOR" && environment.isSet "TERM")
    target := (environment.switch? "FLAGPOLE_LOG_TARGET").getD true }

end Settings

end FeatureGate.Log
