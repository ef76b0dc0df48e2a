import Turnstile.Config.Basic
import Turnstile.Log.Basic
import Turnstile.Text.Blank

/-!
# Faults of Configurations

What can be wrong with a configuration, and which fault is reported: the first
one, in the order of the log level, the log format, the ports, and then remedy
by remedy. Disabled remedies must be in order too.

A level or format is accepted in any case. A level may not be a number here.

## Main definitions

* `Config.Fault`: What is wrong with a configuration.
* `QueueRule.Fault`: What is wrong with a queue rule.
* `Config.fault?`: The first fault of a configuration.
* `Config.check`: A configuration, if it has no fault.
* `Config.Fault.causes`: The wording, from the outer cause to the inner one.

## Theorems

* `check_eq_ok_iff`: A check passes on configurations without fault, and on no
    others.
-/

namespace Turnstile

/-- What is wrong with a queue rule. -/
inductive QueueRule.Fault where
  /-- The rule admits no request. -/
  | noQuota
  /-- The window has no length. -/
  | noWindow
  /-- A refusal is answered with what is no status. -/
  | status (code : UInt16)
  /-- The header that names the group has a blank name. -/
  | noHeader
deriving DecidableEq

/-- What is wrong with a configuration. -/
inductive Config.Fault where
  /-- There is no such log level. -/
  | level (written : String)
  /-- There is no such log format. -/
  | format (written : String)
  /-- The metrics port is zero. -/
  | noMetricsPort
  /-- The gateway's port is zero. -/
  | noGatewayPort
  /-- Both listeners have the same port. -/
  | portClash (port : UInt16)
  /-- A remedy has a blank name. -/
  | unnamedRemedy
  /-- An earlier remedy has the same name. -/
  | duplicateRemedy (name : String)
  /-- The queue rule of a remedy has a fault. -/
  | badRule (remedy : String) (fault : QueueRule.Fault)
deriving DecidableEq

/-- The wording of a fault of a queue rule. -/
def QueueRule.Fault.message : QueueRule.Fault → String
  | .noQuota => "allowed_request_count must be > 0"
  | .noWindow => "window_size_in_seconds must be > 0"
  | .status code => "response_status_code " ++ toString code.toNat ++ " is not a valid HTTP status"
  | .noHeader => "prioritization.group_by.header_name must not be empty"

/-- The wording of a fault, from the outer cause to the inner one. -/
def Config.Fault.causes : Config.Fault → List String
  | .level written =>
    ["Invalid log level: " ++ written ++ ". Must be one of: trace, debug, info, warn, error"]
  | .format written =>
    ["Invalid log format: " ++ written ++ ". Must be one of: json, pretty, compact"]
  | .noMetricsPort => ["Metrics port must be > 0"]
  | .noGatewayPort => ["Server port must be > 0"]
  | .portClash port =>
    ["Metrics and server ports must differ (both " ++ toString port.toNat ++ ")"]
  | .unnamedRemedy => ["Remedy name must not be empty"]
  | .duplicateRemedy name => ["Duplicate remedy name: " ++ name]
  | .badRule remedy fault => ["Remedy '" ++ remedy ++ "' is invalid", fault.message]

/-- The causes of a fault in one line. -/
def Config.Fault.message (f : Config.Fault) : String :=
  ": ".intercalate f.causes

/-- The first fault of logging settings. -/
def Logging.fault? (l : Logging) : Option Config.Fault :=
  if (Log.Level.ofName? (Text.lower l.level)).isNone then some (.level l.level)
  else if (Log.Format.ofName? (Text.lower l.format)).isNone then some (.format l.format)
  else none

/-- The first fault of a queue rule. -/
def QueueRule.fault? (r : QueueRule) : Option QueueRule.Fault :=
  if r.quota = 0 then some .noQuota
  else if r.windowSeconds = 0 then some .noWindow
  else if r.rejectStatus < 100 ∨ 599 < r.rejectStatus then some (.status r.rejectStatus)
  else if r.prioritization.any fun p => Text.allBlank p.header then some .noHeader
  else none

/-- The first fault of a remedy that comes after remedies of other names. -/
def Remedy.fault? (earlier : List String) (r : Remedy) : Option Config.Fault :=
  if Text.allBlank r.name then some .unnamedRemedy
  else if r.name ∈ earlier then some (.duplicateRemedy r.name)
  else (r.rule.bind QueueRule.fault?).map (.badRule r.name)

namespace Config

/-- The first fault of the ports. -/
def portFault? (c : Config) : Option Fault :=
  if c.metrics.port = 0 then some .noMetricsPort
  else if c.gatewayPort = 0 then some .noGatewayPort
  else if c.metrics.enabled ∧ c.metrics.port = c.gatewayPort then some (.portClash c.gatewayPort)
  else none

/-- The first fault of a list of remedies that comes after remedies of other
    names. -/
def remedyFault? (earlier : List String) : List Remedy → Option Fault
  | [] => none
  | r :: rest => (r.fault? earlier).or (remedyFault? (r.name :: earlier) rest)

/-- The first fault of a configuration. -/
def fault? (c : Config) : Option Fault :=
  (c.logging.fault?.or c.portFault?).or (remedyFault? [] c.remedies)

/-- A configuration, if it has no fault. -/
def check (c : Config) : Except Fault Config :=
  match c.fault? with
  | some f => .error f
  | none => .ok c

/-- A check passes on configurations without fault, and on no others. -/
theorem check_eq_ok_iff (c d : Config) : c.check = .ok d ↔ c.fault? = none ∧ d = c := by
  unfold check
  cases c.fault? <;> simp [eq_comm]

end Config

end Turnstile
