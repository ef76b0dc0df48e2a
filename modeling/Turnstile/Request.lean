import Turnstile.Time.Instant

/-!
# Requests

A request asks for admission. It carries the instant of its arrival, from which
the time it may wait is counted, and a priority; lower priorities go first.

A deadline that no instant can express is the last instant of the calendar:
such a request may wait as long as there is time.

## Main definitions

* `Priority`: The rank of a request; smaller goes first.
* `Request`: A request for admission.
* `Instant.plus?`: An instant moved by a span, if the result can be expressed.
* `Request.deadline`: The instant from which a request may not be admitted.
-/

namespace Turnstile

/-- The rank of a request; smaller goes first. -/
abbrev Priority := Int32

/-- The priority of a request that belongs to no group. -/
def Priority.default : Priority := 0

/-- A request for admission. -/
structure Request where
  /-- A name for the request. -/
  id : String
  /-- The rank of the request. -/
  priority : Priority
  /-- The instant at which the request arrived. -/
  arrived : Instant
deriving DecidableEq

/-- The longest step that an instant can be moved by: as many milliseconds as a
    signed 64-bit number holds. -/
def Instant.longestStep : Nat := 0x7fffffffffffffff * 1000000

/-- An instant moved forward by a span, if the span is no longer than a step can
    be and the result lies within the calendar. -/
def Instant.plus? (t : Instant) (d : Span) : Option Instant :=
  if d.nanos ≤ Instant.longestStep then Instant.ofNanos? (t.nanos + d.nanos) else none

/-- The instant from which a request that may wait for `ttl` may no longer be
    admitted. -/
def Request.deadline (r : Request) (ttl : Span) : Instant :=
  (r.arrived.plus? ttl).getD Instant.last

end Turnstile
