import Turnstile.Policy

/-!
# Windows of a Policy

The windows of a policy cover the instants without gaps: an instant lies in the
window of its index and in no other, and later instants lie in no earlier windows.

Where a window starts is told by a function of its own, which holds its count to 64 bits
and answers with the last instant when the calendar has none to answer with. It does so
for windows before the calendar as well, and there it is not monotone. A gate asks only
for the start of windows that follow one it has observed, and for these the start is
where it should be or past the calendar.

## Main definitions

* `Policy.InWindow`: An instant lies between the bounds of a window.
* `Instant.InSeconds`: The same for windows of whole seconds, whatever their number.

## Theorems

* `windowAt_eq_iff`: The index of an instant is that of the window it lies in.
* `windowAt_of_inSeconds`: The windows of a policy are those of its whole seconds.
* `windowAt_mono`: Later instants have no smaller indexes.
* `nanos_windowStart`: Where a window starts that follows one of an instant.
* `windowStart_mono`: Later windows do not start earlier.
* `windowAt_lt_of_lt_windowStart`, `lt_windowStart`: Before the start of a window are the
  instants of the windows before it.
-/

namespace Turnstile

/-- The instant lies in the window with index `k` when windows are a number of seconds long
    and are counted from the epoch. -/
def Instant.InSeconds (seconds : UInt64) (k : Int) (t : Instant) : Prop :=
  k * seconds.toNat * 1000000000 ≤ t.nanos ∧ t.nanos < (k + 1) * seconds.toNat * 1000000000

instance (seconds : UInt64) (k : Int) (t : Instant) : Decidable (t.InSeconds seconds k) :=
  inferInstanceAs (Decidable (_ ∧ _))

namespace Policy

/-- The instant lies in the window with index `k`, which begins a whole number of
    window lengths after the epoch and ends where the next one begins. -/
def InWindow (p : Policy) (k : Int) (t : Instant) : Prop :=
  k * p.windowMicros ≤ t.micros ∧ t.micros < (k + 1) * p.windowMicros

instance (p : Policy) (k : Int) (t : Instant) : Decidable (p.InWindow k t) :=
  inferInstanceAs (Decidable (_ ∧ _))

/-- The index of an instant is that of the window it lies in. -/
theorem windowAt_eq_iff (p : Policy) (k : Int) (t : Instant) :
    p.windowAt t = k ↔ p.InWindow k t := by
  have hpos := p.windowMicros_pos
  unfold windowAt InWindow
  rw [← Int.le_ediv_iff_mul_le hpos, ← Int.ediv_lt_iff_lt_mul hpos]
  omega

/-- The windows of a policy of whole seconds are counted in these, also when they are too
    long for the microseconds in which the policy measures them. -/
theorem windowAt_of_inSeconds {p : Policy} {seconds : UInt64}
    (hwindow : p.window = Span.ofSeconds seconds) {k : Int} {t : Instant}
    (h : t.InSeconds seconds k) : p.windowAt t = k := by
  have hmicros : p.windowMicros = max 1 (min word64Max ((seconds.toNat : Int) * 1000000)) := by
    unfold windowMicros
    rw [hwindow]
    simp only [Span.ofSeconds, nanosPerSecond]
    omega
  have hfirst : Instant.firstNanos ≤ t.nanos := t.first_le
  have hlast : t.nanos ≤ Instant.lastNanos := t.le_last
  rw [windowAt_eq_iff]
  unfold InWindow
  rw [hmicros]
  unfold Instant.InSeconds at h
  rw [Int.add_mul, Int.one_mul] at h
  simp only [Instant.micros, Instant.firstNanos, Instant.lastNanos, word64Max] at *
  generalize (seconds.toNat : Int) = s at h
  by_cases hlong : s * 1000000 ≤ 0x7fffffffffffffff
  · -- The microseconds are exact.
    have hexact : max 1 (min 0x7fffffffffffffff (s * 1000000)) = s * 1000000 := by omega
    rw [hexact, Int.add_mul, Int.one_mul, ← Int.mul_assoc]
    omega
  · -- The calendar ends before the first window does, and begins within the one before.
    have hnear : k = 0 ∨ k = -1 := by
      rcases Int.lt_trichotomy k 0 with hk | hk | hk
      · by_cases hbefore : k ≤ -2
        · have hmul := Int.mul_le_mul_of_nonneg_right hbefore (show 0 ≤ s by omega)
          omega
        · omega
      · exact Or.inl hk
      · have hmul := Int.mul_le_mul_of_nonneg_right (show 1 ≤ k by omega) (show 0 ≤ s by omega)
        omega
    rcases hnear with rfl | rfl
    · omega
    · omega

/-- Later instants have no smaller indexes. -/
theorem windowAt_mono (p : Policy) {t u : Instant} (h : t ≤ u) : p.windowAt t ≤ p.windowAt u := by
  have hmicros : t.micros ≤ u.micros := Int.ediv_le_ediv (by decide) h
  exact Int.ediv_le_ediv p.windowMicros_pos hmicros

/-- Past the window of some instant a window begins a whole number of window lengths after
    the epoch, or with the last instant if the calendar ends before that. -/
theorem nanos_windowStart (p : Policy) {k : Int} {t : Instant} (h : p.windowAt t < k) :
    (p.windowStart k).nanos = min (k * p.windowMicros * 1000) Instant.lastNanos := by
  have hstart : t.micros < k * p.windowMicros :=
    (Int.ediv_lt_iff_lt_mul p.windowMicros_pos).mp h
  have hfirst : Instant.firstNanos ≤ t.nanos := t.first_le
  generalize hmicros : k * p.windowMicros = micros at hstart
  unfold windowStart
  rw [hmicros]
  simp only [Instant.micros, Instant.firstNanos] at hstart hfirst
  -- A count that the calendar has fits into 64 bits, and a larger one is past the calendar
  -- with or without being held to them.
  by_cases hlast : micros * 1000 ≤ Instant.lastNanos
  · have hheld : max word64Min (min word64Max micros) = micros := by
      simp only [word64Min, word64Max, Instant.lastNanos] at *
      omega
    have hrange : Instant.firstNanos ≤ micros * 1000 ∧ micros * 1000 ≤ Instant.lastNanos :=
      ⟨by simp only [Instant.firstNanos]; omega, hlast⟩
    simp only [hheld, Instant.ofMicros?, Instant.ofNanos?, dif_pos hrange, Option.getD_some]
    omega
  · have hpast : ¬(Instant.firstNanos ≤ max word64Min (min word64Max micros) * 1000 ∧
        max word64Min (min word64Max micros) * 1000 ≤ Instant.lastNanos) := by
      simp only [word64Min, word64Max, Instant.lastNanos] at *
      omega
    simp only [Instant.ofMicros?, Instant.ofNanos?, dif_neg hpast, Option.getD_none]
    change Instant.lastNanos = _
    omega

/-- Of two windows past that of some instant the later one does not begin earlier. -/
theorem windowStart_mono (p : Policy) {k l : Int} {t : Instant} (h : p.windowAt t < k)
    (hkl : k ≤ l) : p.windowStart k ≤ p.windowStart l := by
  have hmul : k * p.windowMicros ≤ l * p.windowMicros :=
    Int.mul_le_mul_of_nonneg_right hkl (Int.le_of_lt p.windowMicros_pos)
  change (p.windowStart k).nanos ≤ (p.windowStart l).nanos
  rw [p.nanos_windowStart h, p.nanos_windowStart (Int.lt_of_lt_of_le h hkl)]
  omega

/-- An instant before the start of a window, which is past that of some instant, lies in an
    earlier window. -/
theorem windowAt_lt_of_lt_windowStart (p : Policy) {k : Int} {s t : Instant}
    (h : p.windowAt s < k) (ht : t < p.windowStart k) : p.windowAt t < k := by
  refine (Int.ediv_lt_iff_lt_mul p.windowMicros_pos).mpr ?_
  change t.nanos < (p.windowStart k).nanos at ht
  rw [p.nanos_windowStart h] at ht
  simp only [Instant.micros]
  omega

/-- An instant that lies in an earlier window is before the start of a later one, unless it
    is the last there is. -/
theorem lt_windowStart (p : Policy) {k : Int} {t : Instant} (h : p.windowAt t < k)
    (ht : t < Instant.last) : t < p.windowStart k := by
  have hstart : t.micros < k * p.windowMicros :=
    (Int.ediv_lt_iff_lt_mul p.windowMicros_pos).mp h
  change t.nanos < Instant.lastNanos at ht
  change t.nanos < (p.windowStart k).nanos
  rw [p.nanos_windowStart h]
  simp only [Instant.micros] at hstart
  omega

end Policy

end Turnstile
