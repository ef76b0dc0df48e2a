import Turnstile.Config.Basic
import Turnstile.Text.Digits
import Turnstile.Text.Lowercase

/-!
# Logging

Which lines a gateway logs, and how. The configured level and format are names
in any case; a level may also be a number from 1, the most severe, to 5. Asking
for verbose logs overrides the configured level, whatever it says.

There is one log to a process. Setting it up a second time fails, but only
after the settings themselves were found good.

## Main definitions

* `Log.Level`: How severe a logged line is.
* `Log.Format`: How a logged line is written.
* `Log.Error`: Why logging cannot be set up.
* `Logging.namedLevel`: The level that the settings name.
* `Logging.levelInForce`: The level that lines are logged at.
* `Logging.start`: Setting the log up.

## Theorems

* `levelInForce_verbose`: Verbose logging needs no valid level.
-/

namespace Turnstile

namespace Log

/-- How severe a logged line is, the most severe first. -/
inductive Level where
  /-- Something failed. -/
  | error
  /-- Something is amiss. -/
  | warn
  /-- Something that operators may want to know. -/
  | info
  /-- Something that helps to find a fault. -/
  | debug
  /-- Every step. -/
  | trace
deriving DecidableEq

/-- How a logged line is written. -/
inductive Format where
  /-- One short line. -/
  | compact
  /-- Several lines for people to read. -/
  | pretty
  /-- One JSON object. -/
  | json
deriving DecidableEq

/-- Why logging cannot be set up. -/
inductive Error where
  /-- The level is neither a name nor a number of a level. -/
  | level
  /-- There is no format of this name, which is given in lower case. -/
  | format (name : String)
  /-- The log is set up already. -/
  | installed
deriving DecidableEq

/-- The wording of an error. -/
def Error.message : Error → String
  | .level =>
    "Failed to parse log level: error parsing level: expected one of " ++
      "\"error\", \"warn\", \"info\", \"debug\", \"trace\", or a number 1-5"
  | .format name => "Invalid log format: " ++ name
  | .installed =>
    "Failed to install log subscriber: a global default trace dispatcher has already been set"

namespace Level

/-- The name of a level in lower case. -/
def name : Level → String
  | error => "error"
  | warn => "warn"
  | info => "info"
  | debug => "debug"
  | trace => "trace"

/-- The number of a level, from 1 to 5. -/
def number : Level → Nat
  | error => 1
  | warn => 2
  | info => 3
  | debug => 4
  | trace => 5

/-- All levels, the most severe first. -/
def all : List Level := [error, warn, info, debug, trace]

/-- The level of a name in lower case. -/
def ofName? (s : String) : Option Level :=
  all.find? fun l => l.name == s

/-- The level of a number or of a name in lower case. -/
def ofText? (s : String) : Option Level :=
  match Text.signedNatural? s.toList with
  | some n => all.find? fun l => l.number == n
  | none => ofName? s

end Level

namespace Format

/-- The name of a format. -/
def name : Format → String
  | compact => "compact"
  | pretty => "pretty"
  | json => "json"

/-- All formats. -/
def all : List Format := [compact, pretty, json]

/-- The format of a name in lower case. -/
def ofName? (s : String) : Option Format :=
  all.find? fun f => f.name == s

/-- The format of a name in any case. -/
def parse (s : String) : Except Error Format :=
  let lowered := Text.lower s
  match ofName? lowered with
  | some f => .ok f
  | none => .error (.format lowered)

end Format

end Log

namespace Logging

/-- The level that the settings name. -/
def namedLevel (l : Logging) : Except Log.Error Log.Level :=
  match Log.Level.ofText? (Text.lower l.level) with
  | some level => .ok level
  | none => .error .level

/-- The level that lines are logged at. -/
def levelInForce (l : Logging) (verbose : Bool) : Except Log.Error Log.Level :=
  if verbose then .ok .debug else l.namedLevel

/-- Set the log up, unless it is `installed` already. -/
def start (l : Logging) (verbose installed : Bool) :
    Except Log.Error (Log.Level × Log.Format) := do
  let level ← l.levelInForce verbose
  let format ← Log.Format.parse l.format
  if installed then .error .installed else .ok (level, format)

/-- Verbose logging needs no valid level. -/
theorem levelInForce_verbose (l : Logging) : l.levelInForce true = .ok .debug :=
  rfl

end Logging

end Turnstile
