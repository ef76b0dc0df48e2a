import Turnstile.Time.Span

/-!
# Instants

Points in time, as nanoseconds from the Unix epoch, over the years that the
calendar covers: from the first second of year -262143 to the last nanosecond
of year 262142.

Arithmetic on instants is exact over the integers; only its result is held
against the calendar's range. An operation that may leave the range either
answers `none` or stops at `Instant.last`, and says which.

## Main definitions

* `Instant`: A point in time within the calendar's range.
* `Instant.last`: The last instant there is.
* `Instant.ofNanos?`, `Instant.ofMicros?`: Instants from a count of units.
* `Instant.micros`: Whole microseconds from the epoch, rounded down.
-/

namespace Turnstile

/-- The nanosecond at which the calendar's range begins. -/
def Instant.firstNanos : Int := -8334601228800 * 1000000000

/-- The last nanosecond of the calendar's range. -/
def Instant.lastNanos : Int := 8210266876799 * 1000000000 + 999999999

/-- A point in time within the calendar's range. -/
structure Instant where
  /-- Nanoseconds from the Unix epoch. -/
  nanos : Int
  /-- The instant is not before the range. -/
  first_le : Instant.firstNanos ≤ nanos
  /-- The instant is not after the range. -/
  le_last : nanos ≤ Instant.lastNanos
deriving DecidableEq

namespace Instant

/-- The Unix epoch. -/
def epoch : Instant := ⟨0, by decide, by decide⟩

/-- The last instant of the range. -/
def last : Instant := ⟨lastNanos, by decide, Int.le_refl _⟩

instance : Inhabited Instant := ⟨epoch⟩

instance : LE Instant := ⟨fun a b => a.nanos ≤ b.nanos⟩

instance : LT Instant := ⟨fun a b => a.nanos < b.nanos⟩

instance (a b : Instant) : Decidable (a ≤ b) := inferInstanceAs (Decidable (a.nanos ≤ b.nanos))

instance (a b : Instant) : Decidable (a < b) := inferInstanceAs (Decidable (a.nanos < b.nanos))

instance : Ord Instant := ⟨compareOn (·.nanos)⟩

instance : Std.TransOrd Instant :=
  inferInstanceAs (Std.TransCmp (compareOn (fun t : Instant => t.nanos)))

instance : Std.LawfulEqOrd Instant where
  eq_of_compare {a b} h := by
    have hn : a.nanos = b.nanos := Std.LawfulEqOrd.eq_of_compare h
    rcases a with ⟨n, h₁, h₂⟩
    cases hn
    rfl

/-- The instant at a number of nanoseconds from the epoch, if it is in range. -/
def ofNanos? (n : Int) : Option Instant :=
  if h : firstNanos ≤ n ∧ n ≤ lastNanos then some ⟨n, h.1, h.2⟩ else none

/-- The instant at a number of microseconds from the epoch, if it is in range. -/
def ofMicros? (n : Int) : Option Instant :=
  ofNanos? (n * 1000)

/-- The instant at a number of seconds and nanoseconds from the epoch. -/
def ofParts? (s : Int) (n : Nat) : Option Instant :=
  ofNanos? (s * 1000000000 + n)

/-- Whole microseconds from the epoch, rounded down. -/
def micros (t : Instant) : Int :=
  t.nanos / 1000

end Instant

end Turnstile
