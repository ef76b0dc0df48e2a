import Turnstile.Request

/-!
# Deadlines in Exact Numbers

The deadline of a request is the sum of its arrival and the time it may wait, held to the calendar.

There are two reasons for which the sum is not formed. A span may be longer than the steps that
instants can be moved by, and a sum may lie past the calendar. They have the same answer, the last
instant, and for the first of them this has to be shown: if a step could be shorter than the
calendar, a request that may wait for long would be refused before one that may wait for less.
It cannot. The longest step leads past the calendar even from its first instant, so a span that is
too long for a step has a sum that nobody can express.

All else about deadlines is about the smaller of two numbers.

## Theorems

* `lastNanos_lt_of_longestStep_lt`: A span that is too long for a step leads past the calendar.
* `plus?_eq_none_iff`: A step fails just if the sum lies past the calendar.
* `nanos_deadline`: A deadline is the exact sum, or the last instant if that comes before it.
* `deadline_exact`: Deadlines are exact, not before the arrival, and in the order of both sides.
-/

namespace Turnstile

namespace Instant

variable (t : Instant) (d : Span)

theorem eq_iff_nanos {s t : Instant} : s = t ↔ s.nanos = t.nanos := by
  refine ⟨congrArg nanos, fun h => ?_⟩
  rcases s with ⟨n, _, _⟩
  cases h
  rfl

/-- Even from the first instant of the calendar the longest step leads past the last. -/
theorem lastNanos_lt_of_longestStep_lt (h : longestStep < d.nanos) :
    lastNanos < t.nanos + d.nanos := by
  have hfirst := t.first_le
  simp only [firstNanos, lastNanos, longestStep] at *
  omega

/-- A step fails just if the exact sum lies past the calendar. -/
theorem plus?_eq_none_iff : t.plus? d = none ↔ lastNanos < t.nanos + d.nanos := by
  have hfirst := t.first_le
  unfold plus? ofNanos?
  constructor
  · intro hnone
    split at hnone
    next =>
      -- The sum is not before the calendar, since the arrival is not.
      split at hnone
      next => cases hnone
      next hout => omega
    next hlong => exact t.lastNanos_lt_of_longestStep_lt d (Nat.not_le.mp hlong)
  · intro hpast
    split
    next => exact dif_neg fun hin => Int.not_le.mpr hpast hin.2
    next => rfl

theorem nanos_of_plus? {s : Instant} (h : t.plus? d = some s) :
    s.nanos = t.nanos + d.nanos := by
  unfold plus? ofNanos? at h
  split at h
  next =>
    split at h
    next => cases h; rfl
    next => cases h
  next => cases h

end Instant

namespace Request

/-- A deadline is the exact sum, or the last instant if that comes before it. -/
theorem nanos_deadline (r : Request) (ttl : Span) :
    (r.deadline ttl).nanos = min (r.arrived.nanos + ttl.nanos) Instant.lastNanos := by
  unfold deadline
  cases hstep : r.arrived.plus? ttl with
  | none =>
      have hpast := (r.arrived.plus?_eq_none_iff ttl).mp hstep
      change Instant.lastNanos = _
      omega
  | some s =>
      have hsum := r.arrived.nanos_of_plus? ttl hstep
      have hlast := s.le_last
      change s.nanos = _
      omega

/-- **Deadlines are exact.** The deadline of a request is its arrival and the time it may wait,
    summed up in nanoseconds without any bound, or the last instant if that is less. A step that
    fails, because the span is too long for one or because the calendar does not have
    the sum, is answered with the last instant, and the sum is past it. So no deadline is before
    the arrival; one is equal to it just if there is no time to wait or the arrival is the last
    instant; and neither an earlier arrival nor less time to wait has a later deadline. -/
theorem deadline_exact (r : Request) (ttl : Span) :
    (r.deadline ttl).nanos = min (r.arrived.nanos + ttl.nanos) Instant.lastNanos ∧
    (Instant.longestStep < ttl.nanos ∨ r.arrived.plus? ttl = none →
      r.deadline ttl = Instant.last ∧ Instant.lastNanos < r.arrived.nanos + ttl.nanos) ∧
    r.arrived ≤ r.deadline ttl ∧
    (r.deadline ttl = r.arrived ↔ ttl.isZero = true ∨ r.arrived = Instant.last) ∧
    ∀ (s : Request) (time : Span), r.arrived ≤ s.arrived → ttl.nanos ≤ time.nanos →
      r.deadline ttl ≤ s.deadline time := by
  have hsum := r.nanos_deadline ttl
  have hlast := r.arrived.le_last
  refine ⟨hsum, fun hfails => ?_, ?_, ?_, fun s time harrived htime => ?_⟩
  · have hpast : Instant.lastNanos < r.arrived.nanos + ttl.nanos :=
      hfails.elim (r.arrived.lastNanos_lt_of_longestStep_lt ttl)
        (r.arrived.plus?_eq_none_iff ttl).mp
    refine ⟨Instant.eq_iff_nanos.mpr ?_, hpast⟩
    change _ = Instant.lastNanos
    omega
  · change r.arrived.nanos ≤ _
    omega
  · have hend : Instant.last.nanos = Instant.lastNanos := rfl
    rw [Instant.eq_iff_nanos, Instant.eq_iff_nanos, Span.isZero, beq_iff_eq]
    omega
  · have hsum' := s.nanos_deadline time
    change r.arrived.nanos ≤ s.arrived.nanos at harrived
    change (r.deadline ttl).nanos ≤ (s.deadline time).nanos
    omega

/-- A request of the last nanosecond before the epoch that may wait for a second and a half has
    its deadline a nanosecond before a second and a half past it. One that may wait for a
    nanosecond more than any step has the last instant. -/
theorem deadline_exact_before_epoch :
    let r : Request := ⟨"early", 0, ⟨-1, by decide, by decide⟩⟩
    let short : Span := ⟨1500000000, by decide⟩
    let long : Span := ⟨Instant.longestStep + 1, by decide⟩
    (r.deadline short).nanos = 1499999999 ∧
    (Instant.longestStep < long.nanos ∧ r.deadline long = Instant.last) ∧
    (short.nanos ≤ long.nanos ∧ r.deadline short ≤ r.deadline long) := by
  intro r short long
  have hlong : Instant.longestStep < long.nanos := by decide
  have hless : short.nanos ≤ long.nanos := by decide
  rcases deadline_exact r short with ⟨hsum, -, -, -, hmono⟩
  exact ⟨hsum, ⟨hlong, ((deadline_exact r long).2.1 (Or.inl hlong)).1⟩, hless,
    hmono r long (Int.le_refl _) hless⟩

end Request

end Turnstile
