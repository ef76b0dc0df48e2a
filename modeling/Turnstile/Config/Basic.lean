import Turnstile.Policy
import Turnstile.Request
import Turnstile.Table

/-!
# Configurations

What a gateway is set up with: how it logs, where it listens, and which
remedies it applies. A remedy may come with a queue rule, which says how many
requests it admits in a window, how long others may wait, and which status a
refused one is answered with. Requests may be grouped by the value of a header,
and each group has a priority.

## Main definitions

* `Config`: A configuration.
* `Remedy`, `QueueRule`, `Prioritization`: Its parts.
* `QueueRule.policy`, `QueueRule.ttl`: What a rule asks of a gate.
* `Config.remedy?`: The enabled remedy of a name.
-/

namespace Turnstile

/-- How to log. -/
structure Logging where
  /-- The least severe level that is logged. -/
  level : String := "info"
  /-- The format of a logged line. -/
  format : String := "compact"
deriving DecidableEq

/-- The listener for metrics. -/
structure MetricsListener where
  /-- Whether there is one. -/
  enabled : Bool := true
  /-- The port it listens on. -/
  port : UInt16 := 9090
deriving DecidableEq

/-- How requests are grouped, and the priority of each group. -/
structure Prioritization where
  /-- The header whose value names the group. -/
  header : String
  /-- The priority of each group. -/
  groups : Table String Priority := Table.empty
deriving DecidableEq

/-- How the requests of a remedy queue. -/
structure QueueRule where
  /-- The requests admitted in a window. -/
  quota : UInt32
  /-- The length of a window in seconds. -/
  windowSeconds : UInt64
  /-- How long a request may wait, in seconds. -/
  ttlSeconds : UInt64
  /-- The status of the answer to a refused request. -/
  rejectStatus : UInt16 := 429
  /-- The grouping of requests, if there is one. -/
  prioritization : Option Prioritization := none
deriving DecidableEq

/-- A remedy that the gateway applies. -/
structure Remedy where
  /-- The name that requests are sent to. -/
  name : String
  /-- Whether requests may be sent to it. -/
  enabled : Bool := true
  /-- How its requests queue; without a rule all of them pass. -/
  rule : Option QueueRule := none
deriving DecidableEq

/-- A configuration. -/
structure Config where
  /-- How to log. -/
  logging : Logging := {}
  /-- The listener for metrics. -/
  metrics : MetricsListener := {}
  /-- The port that the gateway listens on. -/
  gatewayPort : UInt16 := 8040
  /-- The remedies in order. -/
  remedies : List Remedy := []
deriving DecidableEq

/-- The policy that a rule asks for. -/
def QueueRule.policy (r : QueueRule) : Policy where
  quota := r.quota
  window := Span.ofSeconds r.windowSeconds

/-- How long a request may wait under a rule. -/
def QueueRule.ttl (r : QueueRule) : Span :=
  Span.ofSeconds r.ttlSeconds

/-- The position of the first enabled remedy of a name. -/
def Config.position? (c : Config) (name : String) : Option Nat :=
  c.remedies.findIdx? fun r => r.enabled && r.name == name

/-- The first enabled remedy of a name. -/
def Config.remedy? (c : Config) (name : String) : Option Remedy :=
  c.remedies.find? fun r => r.enabled && r.name == name

end Turnstile
