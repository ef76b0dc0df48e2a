import Turnstile.Config.Basic
import Turnstile.Data.Value

/-!
# Written Configurations

Configurations as data values, and reading them back. Members that have a
default may be left out, but not be null; members that are optional may be
either. Members of other names are passed over.

Written configurations have all their members.

## Main definitions

* `Config.toValue`, `Config.ofValue?`: Configurations.
* `Remedy.toValue`, `Remedy.ofValue?`: Remedies.
* `QueueRule.toValue`, `QueueRule.ofValue?`: Queue rules.
-/

namespace Turnstile

/-- A grouping as a record. -/
def Prioritization.toValue (p : Prioritization) : Value :=
  .object [
    ("group_by", .object [("header_name", .text p.header)]),
    ("groups", .ofTable id (fun n => .object [("priority", .int n.toInt)]) p.groups)]

/-- Read the header that names the group. -/
def Prioritization.headerOfValue? (form : Form) (v : Value) : Option String := do
  guard (v.isRecord form 1)
  v.required? 0 "header_name" (·.text?)

/-- Read the priority of a group. -/
def Prioritization.groupOfValue? (form : Form) (v : Value) : Option Priority := do
  guard (v.isRecord form 1)
  v.required? 0 "priority" (·.int32?)

/-- Read a grouping. -/
def Prioritization.ofValue? (form : Form) (v : Value) : Option Prioritization := do
  guard (v.isRecord form 2)
  let header ← v.required? 0 "group_by" (headerOfValue? form)
  let groups ← v.optional? 1 "groups" Table.empty (·.table? some (groupOfValue? form))
  return { header, groups }

/-- A queue rule as a record. -/
def QueueRule.toValue (r : QueueRule) : Value :=
  .object [
    ("allowed_request_count", .nat r.quota.toNat),
    ("window_size_in_seconds", .nat r.windowSeconds.toNat),
    ("ttl_seconds", .nat r.ttlSeconds.toNat),
    ("response_status_code", .nat r.rejectStatus.toNat),
    ("prioritization", .ofOption Prioritization.toValue r.prioritization)]

/-- Read a queue rule. -/
def QueueRule.ofValue? (form : Form) (v : Value) : Option QueueRule := do
  guard (v.isRecord form 5)
  let quota ← v.required? 0 "allowed_request_count" (·.uint32?)
  let windowSeconds ← v.required? 1 "window_size_in_seconds" (·.uint64?)
  let ttlSeconds ← v.required? 2 "ttl_seconds" (·.uint64?)
  let rejectStatus ← v.optional? 3 "response_status_code" 429 (·.uint16?)
  let prioritization ← v.optional? 4 "prioritization" none
    (Value.nullable? (Prioritization.ofValue? form))
  return { quota, windowSeconds, ttlSeconds, rejectStatus, prioritization }

/-- A remedy as a record. -/
def Remedy.toValue (r : Remedy) : Value :=
  .object [
    ("name", .text r.name),
    ("enabled", .bool r.enabled),
    ("strategy_based_queue", .ofOption QueueRule.toValue r.rule)]

/-- Read a remedy. -/
def Remedy.ofValue? (form : Form) (v : Value) : Option Remedy := do
  guard (v.isRecord form 3)
  let name ← v.required? 0 "name" (·.text?)
  let enabled ← v.optional? 1 "enabled" true (·.bool?)
  let rule ← v.optional? 2 "strategy_based_queue" none
    (Value.nullable? (QueueRule.ofValue? form))
  return { name, enabled, rule }

/-- The logging settings as a record. -/
def Logging.toValue (l : Logging) : Value :=
  .object [("level", .text l.level), ("format", .text l.format)]

/-- Read logging settings. -/
def Logging.ofValue? (form : Form) (v : Value) : Option Logging := do
  guard (v.isRecord form 2)
  let level ← v.optional? 0 "level" "info" (·.text?)
  let format ← v.optional? 1 "format" "compact" (·.text?)
  return { level, format }

/-- The listener for metrics as a record. -/
def MetricsListener.toValue (m : MetricsListener) : Value :=
  .object [("enabled", .bool m.enabled), ("port", .nat m.port.toNat)]

/-- Read the listener for metrics. -/
def MetricsListener.ofValue? (form : Form) (v : Value) : Option MetricsListener := do
  guard (v.isRecord form 2)
  let enabled ← v.optional? 0 "enabled" true (·.bool?)
  let port ← v.optional? 1 "port" 9090 (·.uint16?)
  return { enabled, port }

namespace Config

/-- Read the record of the gateway's listener. -/
def portOfValue? (form : Form) (v : Value) : Option UInt16 := do
  guard (v.isRecord form 1)
  v.optional? 0 "port" 8040 (·.uint16?)

/-- A configuration as a record. -/
def toValue (c : Config) : Value :=
  .object [
    ("logging", c.logging.toValue),
    ("metrics", c.metrics.toValue),
    ("server", .object [("port", .nat c.gatewayPort.toNat)]),
    ("remedies", .list (c.remedies.map Remedy.toValue))]

/-- Read a configuration. -/
def ofValue? (form : Form) (v : Value) : Option Config := do
  guard (v.isRecord form 4)
  let logging ← v.optional? 0 "logging" {} (Logging.ofValue? form)
  let metrics ← v.optional? 1 "metrics" {} (MetricsListener.ofValue? form)
  let gatewayPort ← v.optional? 2 "server" 8040 (portOfValue? form)
  let remedies ← v.optional? 3 "remedies" [] (·.list? (Remedy.ofValue? form))
  return { logging, metrics, gatewayPort, remedies }

end Config

end Turnstile
