import FeatureGate.Log.Filter
import FeatureGate.Log.Settings

/-!
# Setting up the log

A process has one log, and the first to set it up decides: whoever comes later
gets the settings that won. A filter in the environment takes precedence over
the level of the settings, if it can be read. Setting up the log is itself a
message, of level debug.
-/

namespace FeatureGate.Log

/-- The variable that holds the filter. -/
def filterVariable : String := "RUST_LOG"

/-- **The least level of messages shown** that are like a given one, under
settings and an environment. -/
def Settings.threshold (settings : Settings) (environment : Environment)
    (message : Message) : Level :=
  match (environment.text? filterVariable).bind Filter.ofText? with
  | some filter => filter.level message
  | none => settings.level

/-- **The log of a process**, set up or not. -/
structure Setup where
  /-- The settings that won. -/
  settings : Option Settings

namespace Setup

/-- Not set up yet. -/
def none : Setup := ⟨.none⟩

instance : Inhabited Setup := ⟨none⟩

/-- **Set up the log**, unless it is set up: the settings that won. -/
def install (setup : Setup) (settings : Settings) : Settings × Setup :=
  let won := setup.settings.getD settings
  (won, ⟨some won⟩)

/-- Set up the log as the environment says. -/
def installFrom (setup : Setup) (environment : Environment) : Settings × Setup :=
  setup.install (.ofEnvironment environment)

/-- The message that the log is set up. -/
def announcement : Message :=
  ⟨"flagpole_log", .debug, ["message", "installed", "level", "format"]⟩

/-- **Whether a message is shown.** -/
def shows (setup : Setup) (environment : Environment) (message : Message) : Bool :=
  setup.settings.any fun settings =>
    message.level.passes (settings.threshold environment message)

/-- Setting up the log again changes nothing. -/
theorem install_install (setup : Setup) (settings later : Settings) :
    (setup.install settings).2.install later = setup.install settings := rfl

end Setup

/-- **What the messages shown look like.** -/
structure Appearance where
  /-- Whether there are colours. -/
  colored : Bool
  /-- The places that are named as those the messages come from. -/
  places : List String
  /-- Whether every line is a JSON object. -/
  json : Bool
  /-- Whether every message is one line. -/
  oneLineEach : Bool
deriving DecidableEq, Repr

/-- **The appearance of the messages shown** under settings. Where nothing is
shown there is nothing to colour; a JSON object is never coloured. -/
def Appearance.of (settings : Option Settings) (shown : List Message) : Appearance :=
  match settings with
  | some settings =>
    if shown.isEmpty then ⟨false, [], false, true⟩
    else ⟨settings.color && settings.format ≠ .json,
      if settings.target then shown.map (·.place) else [],
      settings.format = .json, settings.format ≠ .pretty⟩
  | none => ⟨false, [], false, true⟩

end FeatureGate.Log
