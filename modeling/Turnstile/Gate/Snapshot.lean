import Turnstile.Gate.Basic
import Turnstile.Time.Stamp

/-!
# Snapshots

What a gate shows of itself: its policy, the start of the window it last
observed, the slots given away in it, how many calls of each priority wait, and
whether it is closed. Taking a snapshot observes no window.

## Main definitions

* `Snapshot`: The state of a gate as others see it.
* `Gate.snapshot`: The snapshot of a gate.
* `Gate.debug`: The debug form of a gate, which names its policy only.
-/

namespace Turnstile

/-- The state of a gate as others see it. -/
structure Snapshot where
  /-- The policy of the gate. -/
  policy : Policy
  /-- The start of the window last observed. -/
  windowStart : Stamp
  /-- The slots given away in that window. -/
  admitted : UInt32
  /-- The number of waiting calls of each priority. -/
  waiting : Table Priority UInt64
  /-- Whether the gate is closed. -/
  closed : Bool
deriving DecidableEq

/-- The snapshot of a gate. -/
def Gate.snapshot (g : Gate) : Snapshot where
  policy := g.policy
  windowStart := { instant := g.policy.windowStart g.window }
  admitted := UInt32.ofNat g.admitted
  waiting := g.counts.mapValues UInt64.ofNat
  closed := g.closed

/-- The debug form of a gate with a policy. -/
def Gate.debug (p : Policy) : String :=
  "AdmissionQueue \x7b strategy: Strategy \x7b window_quota: " ++ toString p.quota.toNat ++
    ", window_size: " ++ p.window.debug ++ " \x7d, .. \x7d"

end Turnstile
