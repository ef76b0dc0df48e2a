import Turnstile.Config.Fault
import Turnstile.Path
import Turnstile.Toml.Document
import Turnstile.Wire.Config

/-!
# Loading Configurations

A configuration comes from a file, if there is one, and else from the defaults.
Variables of the environment override the log settings, whether there is a
metrics listener, and the ports. A value that makes no sense is passed over, so
that it never breaks a configuration. Only then is the configuration checked.

The file lies in the directory for configurations that the environment names,
in a directory of its own.

## Main definitions

* `Environment`: The variables that are set.
* `Config.override`: What the environment overrides.
* `Config.path`: Where the file lies.
* `Config.Source`: What there is in the place of the file.
* `Config.load`: Loading a configuration.
* `Config.LoadError`: Why a configuration cannot be loaded.

## Theorems

* `override_override`: Overriding twice does no more than overriding once.
-/

namespace Turnstile

/-- The variables that are set, with their values. -/
abbrev Environment := Table String String

/-- A directory that a variable names; an empty value names none. -/
def Environment.directory? (env : Environment) (name : String) : Option String :=
  (env.find? name).filter fun d => !d.isEmpty

namespace Config

/-- The log level that the environment asks for. -/
def levelVariable := "REMEDY_QUEUE_LOG_LEVEL"

/-- The log format that the environment asks for. -/
def formatVariable := "REMEDY_QUEUE_LOG_FORMAT"

/-- Whether the environment asks for a metrics listener. -/
def metricsVariable := "REMEDY_QUEUE_METRICS_ENABLED"

/-- The metrics port that the environment asks for. -/
def metricsPortVariable := "REMEDY_QUEUE_METRICS_PORT"

/-- The gateway's port that the environment asks for. -/
def gatewayPortVariable := "REMEDY_QUEUE_SERVER_PORT"

/-- All variables that are asked for. -/
def variableNames : List String :=
  ["HOME", "XDG_CONFIG_HOME", levelVariable, formatVariable, metricsVariable,
    metricsPortVariable, gatewayPortVariable]

/-- Read a switch. -/
def switch? (s : String) : Option Bool :=
  if s = "true" then some true else if s = "false" then some false else none

/-- Read a port, which is not zero. -/
def port? (s : String) : Option UInt16 :=
  match Text.signedNatural? s.toList with
  | some n => if 0 < n ∧ n < UInt16.size then some (UInt16.ofNat n) else none
  | none => none

/-- A configuration with what the environment overrides. -/
def override (env : Environment) (c : Config) : Config where
  logging := {
    level := (env.find? levelVariable).getD c.logging.level
    format := (env.find? formatVariable).getD c.logging.format }
  metrics := {
    enabled := ((env.find? metricsVariable).bind switch?).getD c.metrics.enabled
    port := ((env.find? metricsPortVariable).bind port?).getD c.metrics.port }
  gatewayPort := ((env.find? gatewayPortVariable).bind port?).getD c.gatewayPort
  remedies := c.remedies

/-- Where the file lies, for an account with a home directory. The environment
    may name a directory for configurations, by an absolute path, or another
    home directory. -/
def path (accountHome : String) (env : Environment) : String :=
  let absolute := (env.directory? "XDG_CONFIG_HOME").filter (·.startsWith "/")
  let home := (env.directory? "HOME").getD accountHome
  let directory := absolute.getD (Path.join home ".config")
  Path.join directory "remedy-queue/config.toml"

/-- What there is in the place of the file. -/
inductive Source where
  /-- There is nothing. -/
  | absent
  /-- There is something that is no text. -/
  | unreadable
  /-- There is a text. -/
  | text (content : String)

/-- Why a configuration cannot be loaded. -/
inductive LoadError where
  /-- What lies in the place of the file is no text. -/
  | unreadable
  /-- The text is not a configuration. -/
  | malformed
  /-- The configuration has a fault. -/
  | invalid (fault : Fault)
deriving DecidableEq

/-- The wording of an error about the file at a path, from the outer cause to the
    inner one. -/
def LoadError.causes (path : String) : LoadError → List String
  | .unreadable =>
    ["Failed to read config file from " ++ Path.quoted path, "it does not hold a text"]
  | .malformed =>
    ["Failed to parse config file from " ++ Path.quoted path, "it does not hold a configuration"]
  | .invalid fault => fault.causes

/-- The configuration that a text says. -/
def parse? (content : String) : Option Config :=
  (Toml.parse? content).bind (ofValue? .toml)

/-- What the file says, before the environment is asked. -/
def read : Source → Except LoadError Config
  | .absent => .ok {}
  | .unreadable => .error .unreadable
  | .text content =>
    match parse? content with
    | some c => .ok c
    | none => .error .malformed

/-- Load a configuration. -/
def load (source : Source) (env : Environment) : Except LoadError Config := do
  let c ← read source
  match (c.override env).check with
  | .ok c => .ok c
  | .error fault => .error (.invalid fault)

/-- Overriding twice does no more than overriding once. -/
theorem override_override (env : Environment) (c : Config) :
    (c.override env).override env = c.override env := by
  simp only [override]
  cases env.find? levelVariable <;> cases env.find? formatVariable <;>
    cases (env.find? metricsVariable).bind switch? <;>
    cases (env.find? metricsPortVariable).bind port? <;>
    cases (env.find? gatewayPortVariable).bind port? <;> rfl

end Config

end Turnstile
