import Turnstile.Data.Value
import Turnstile.Registry

/-!
# Written Queue States

Policies, keys and snapshots as data values, and reading them back.

A span is a record of seconds and nanoseconds that tolerates no other member,
unlike all other records. The counts of a snapshot are an object whose names
are priorities in plain decimal.

A registered snapshot is written as one flat object, the members of the
snapshot beside the remedy name. Names that are numbers are not understood
within such an object, so a registered snapshot can be read back only if nobody
waits.

## Main definitions

* `Span.toValue`, `Span.ofValue?`: Spans.
* `Policy.toValue`, `Policy.ofValue?`: Policies.
* `Key.toValue`, `Key.ofValue?`: Keys.
* `Snapshot.toValue`, `Snapshot.ofValue?`: Snapshots.
* `Registered.toValue`, `Registered.ofValue?`: Registered snapshots.
-/

namespace Turnstile

/-- A span as a record of seconds and nanoseconds. -/
def Span.toValue (d : Span) : Value :=
  .object [("secs", .nat d.seconds), ("nanos", .nat d.subsecond)]

/-- Read a span; nanoseconds beyond a second carry. -/
def Span.ofValue? (v : Value) : Option Span := do
  guard (v.isRecord .json 2 && known v)
  let seconds ← v.required? 0 "secs" (·.uint64?)
  let nanos ← v.required? 1 "nanos" (·.uint32?)
  Span.ofParts? seconds.toNat nanos.toNat
where
  /-- Whether an object has no members but those of a span. -/
  known : Value → Bool
    | .object members => members.all fun m => m.1 == "secs" || m.1 == "nanos"
    | _ => true

/-- A policy as a record. -/
def Policy.toValue (p : Policy) : Value :=
  .object [("window_quota", .nat p.quota.toNat), ("window_size", p.window.toValue)]

/-- Read a policy. -/
def Policy.ofValue? (v : Value) : Option Policy := do
  guard (v.isRecord .json 2)
  let quota ← v.required? 0 "window_quota" (·.uint32?)
  let window ← v.required? 1 "window_size" Span.ofValue?
  return { quota, window }

/-- A key as a record. -/
def Key.toValue (k : Key) : Value :=
  .object [("remedy_name", .text k.remedy), ("strategy", k.policy.toValue)]

/-- Read a key. -/
def Key.ofValue? (v : Value) : Option Key := do
  guard (v.isRecord .json 2)
  let remedy ← v.required? 0 "remedy_name" (·.text?)
  let policy ← v.required? 1 "strategy" Policy.ofValue?
  return { remedy, policy }

/-- A priority in decimal. -/
def Priority.text (p : Priority) : String :=
  toString p.toInt

/-- Read a priority in plain decimal: no plus sign, no leading zero, and no minus
    sign before zero. -/
def Priority.parse? (s : String) : Option Priority := do
  let n ← s.toInt?
  guard (toString n == s)
  (Value.int n).int32?

/-- The number of waiting calls of each priority as an object. -/
def waitingValue (waiting : Table Priority UInt64) : Value :=
  .ofTable Priority.text (fun n => .nat n.toNat) waiting

/-- Read the number of waiting calls of each priority. -/
def waitingOfValue? (v : Value) : Option (Table Priority UInt64) :=
  v.table? Priority.parse? (·.uint64?)

namespace Snapshot

/-- The members of a written snapshot. -/
def members (s : Snapshot) : List (String × Value) :=
  [("strategy", s.policy.toValue),
   ("window_start", .text s.windowStart.text),
   ("admitted", .nat s.admitted.toNat),
   ("waiting", waitingValue s.waiting),
   ("closed", .bool s.closed)]

/-- A snapshot as a record. -/
def toValue (s : Snapshot) : Value := .object s.members

/-- Read the members of a snapshot, its counts by a reader of their own. -/
def ofMembers? (v : Value) (counts : Value → Option (Table Priority UInt64)) :
    Option Snapshot := do
  let policy ← v.required? 0 "strategy" Policy.ofValue?
  let windowStart ← v.required? 1 "window_start" fun t => t.text?.bind Stamp.parse?
  let admitted ← v.required? 2 "admitted" (·.uint32?)
  let waiting ← v.required? 3 "waiting" counts
  let closed ← v.required? 4 "closed" (·.bool?)
  return { policy, windowStart, admitted, waiting, closed }

/-- Read a snapshot. -/
def ofValue? (v : Value) : Option Snapshot := do
  guard (v.isRecord .json 5)
  ofMembers? v waitingOfValue?

end Snapshot

namespace Registered

/-- A registered snapshot as one flat object. -/
def toValue (r : Registered) : Value :=
  .object (("remedy_name", .text r.remedy) :: r.gate.members)

/-- Read counts where names that are numbers are not understood. -/
def noCounts? : Value → Option (Table Priority UInt64)
  | .object [] => some Table.empty
  | _ => none

/-- Read a registered snapshot, which has to be an object. -/
def ofValue? (v : Value) : Option Registered :=
  match v with
  | .object _ => do
    let remedy ← v.required? 0 "remedy_name" (·.text?)
    let gate ← Snapshot.ofMembers? v noCounts?
    return { remedy, gate }
  | _ => none

end Registered

end Turnstile
