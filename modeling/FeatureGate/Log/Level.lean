import FeatureGate.Text.Blank

/-!
# Log levels

A log has a least level, and lets the messages of that level and of the more
severe ones pass. The level `off` is above every message.

Levels and formats are read from settings: trimmed, and with their letters in
any case. No character outside ASCII is the capital of a letter in one of their
names, so the case of ASCII letters is all that matters.
-/

namespace FeatureGate.Log

/-- A setting without blanks around it, in lower case. -/
def word (text : String) : String := (Text.trim text).toLower

/-- **The level of a message or of a log.** -/
inductive Level where
  /-- The steps of the work. -/
  | trace
  /-- What helps to find a fault. -/
  | debug
  /-- What is worth knowing. -/
  | info
  /-- What is odd. -/
  | warn
  /-- What went wrong. -/
  | error
  /-- Nothing at all. -/
  | off
deriving DecidableEq, Repr

namespace Level

/-- How severe a level is. -/
def rank : Level → Nat
  | trace => 0
  | debug => 1
  | info => 2
  | warn => 3
  | error => 4
  | off => 5

instance : Ord Level := ⟨compareOn rank⟩

/-- The name of a level. -/
def name : Level → String
  | trace => "trace"
  | debug => "debug"
  | info => "info"
  | warn => "warn"
  | error => "error"
  | off => "off"

/-- The level of a name, in lower case. -/
def ofName? (name : String) : Option Level :=
  [trace, debug, info, warn, error, off].find? (·.name = name)

/-- **The level of a setting**: its name, or another word for it. -/
def ofText? (text : String) : Option Level :=
  match word text with
  | "warning" => some warn
  | "none" => some off
  | name => ofName? name

/-- Whether a message passes a log with a least level. -/
def passes (message least : Level) : Bool := least.rank ≤ message.rank

theorem ofName?_name (level : Level) : ofName? level.name = some level := by
  cases level <;> rfl

end Level

/-- **The format of a log.** -/
inductive Format where
  /-- Several lines for a message. -/
  | pretty
  /-- One line for a message. -/
  | compact
  /-- One JSON object for a message. -/
  | json
deriving DecidableEq, Repr

namespace Format

/-- The name of a format. -/
def name : Format → String
  | pretty => "pretty"
  | compact => "compact"
  | json => "json"

/-- **The format of a setting.** -/
def ofText? (text : String) : Option Format :=
  [pretty, compact, json].find? (·.name = word text)

end Format

end FeatureGate.Log
