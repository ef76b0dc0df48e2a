import Turnstile.Proofs.Policy

/-!
# Windows in Exact Numbers

Windows of any length, told without words of 64 bits.

A policy holds two numbers to words. A window that is too long for one counts as the
longest that is not, and where the start of a window is asked for, the distance from the
epoch is cut off at the ends of the words. What is meant is neither: a window has its own
length in microseconds, and the one with index `i` begins `i` lengths after the epoch.

That the two come to the same has one reason. The calendar ends before the words do, on
both sides. So a window that does not fit a word is longer than the calendar is on either
side of the epoch, and whether it is measured as it is or held to a word, all instants lie
in the window that begins at the epoch and the one that ends there. And a distance that is
cut off was past the calendar before and is still past it, which is all that the answer
depends on.

Once the lengths are exact, the index of an instant and the start of a window are two
sides of one division: a window starts by an instant just if its index is no larger than
that of the instant. The edges of windows follow from this.

## Main definitions

* `IsWord64`: A number fits a signed word of 64 bits.
* `Policy.exactMicros`: The length of a window, whatever it is.

## Theorems

* `windowAt_eq_exact`: The index of an instant is that of the exact division.
* `windowStart_eq_exact`: A window starts where it should, or with the last instant if the
  calendar has no such instant.
* `start_le_iff`: Starts and indexes are two sides of one division.
* `windows_exact`: Indexes, starts and the edges between windows in exact numbers.
-/

namespace Turnstile

/-- The number fits a signed word of 64 bits. -/
def IsWord64 (n : Int) : Prop :=
  word64Min ≤ n ∧ n ≤ word64Max

instance (n : Int) : Decidable (IsWord64 n) :=
  inferInstanceAs (Decidable (_ ∧ _))

namespace Instant

/-- The microsecond in which the calendar begins. -/
def firstMicros : Int := -8334601228800000000

/-- The microsecond in which the calendar ends. -/
def lastMicros : Int := 8210266876799999999

/-- The calendar begins after the words do, and ends before them. -/
theorem calendar_in_words : word64Min < firstMicros ∧ firstMicros < 0 ∧ 0 < lastMicros ∧
    lastMicros < word64Max := by
  decide

theorem micros_bounds (t : Instant) : firstMicros ≤ t.micros ∧ t.micros ≤ lastMicros := by
  have hfirst := t.first_le
  have hlast := t.le_last
  simp only [firstNanos, lastNanos] at hfirst hlast
  simp only [micros, firstMicros, lastMicros]
  omega

theorem ofMicros?_eq_some_iff (n : Int) (s : Instant) :
    ofMicros? n = some s ↔ s.nanos = n * 1000 := by
  unfold ofMicros? ofNanos?
  constructor
  · intro h
    split at h
    · cases h
      rfl
    · cases h
  · intro h
    rw [dif_pos ⟨h ▸ s.first_le, h ▸ s.le_last⟩]
    rcases s with ⟨nanos, hfirst, hlast⟩
    cases h
    rfl

theorem ofMicros?_eq_none_iff (n : Int) :
    ofMicros? n = none ↔ n < firstMicros ∨ lastMicros < n := by
  unfold ofMicros? ofNanos? firstNanos lastNanos firstMicros lastMicros
  constructor
  · intro h
    split at h
    · cases h
    · omega
  · intro h
    rw [dif_neg (by omega)]

/-- A count of microseconds that is held to a word is past the calendar if it was before. -/
theorem ofMicros?_held (n : Int) :
    ofMicros? (max word64Min (min word64Max n)) = ofMicros? n := by
  rcases calendar_in_words with ⟨hbegin, -, -, hend⟩
  by_cases hword : IsWord64 n
  · unfold IsWord64 at hword
    have hsame : max word64Min (min word64Max n) = n := by omega
    rw [hsame]
  · -- Whatever does not fit a word is cut off at one of its ends.
    unfold IsWord64 at hword
    have hpast : ofMicros? n = none := by
      rw [ofMicros?_eq_none_iff]
      omega
    rw [hpast, ofMicros?_eq_none_iff]
    omega

end Instant

namespace Policy

variable (p : Policy)

/-- The length of a window in whole microseconds, and one if it is shorter. -/
def exactMicros : Int :=
  max 1 ((p.window.nanos / 1000 : Nat) : Int)

theorem exactMicros_pos : 0 < p.exactMicros := by
  unfold exactMicros
  omega

theorem windowMicros_eq : p.windowMicros = min word64Max p.exactMicros := by
  simp only [windowMicros, exactMicros, word64Max]
  omega

/-- A window that is not measured exactly is longer than any distance in the calendar. -/
theorem exact_or_long : p.windowMicros = p.exactMicros ∨
    word64Max ≤ p.windowMicros ∧ word64Max ≤ p.exactMicros := by
  rw [windowMicros_eq]
  omega

/-- The index of an instant is that of the exact division. -/
theorem windowAt_eq_exact (t : Instant) : p.windowAt t = t.micros / p.exactMicros := by
  unfold windowAt
  rcases p.exact_or_long with hexact | ⟨hheld, hlong⟩
  · rw [hexact]
  rcases t.micros_bounds with ⟨hfirst, hlast⟩
  rcases Instant.calendar_in_words with ⟨hbegin, -, -, hend⟩
  have hwide : -word64Max ≤ Instant.firstMicros := by decide
  by_cases hbefore : t.micros < 0
  · -- The window that ends at the epoch reaches back to before the calendar.
    rw [Int.ediv_eq_neg_one_of_neg_of_le hbefore (by omega),
      Int.ediv_eq_neg_one_of_neg_of_le hbefore (by omega)]
  · rw [Int.ediv_eq_zero_of_lt (by omega) (by omega),
      Int.ediv_eq_zero_of_lt (by omega) (by omega)]

/-- Where a long window begins is the same however it is measured. Only the one at the epoch
    begins within the calendar. -/
theorem ofMicros?_mul_windowMicros (i : Int) :
    Instant.ofMicros? (i * p.windowMicros) = Instant.ofMicros? (i * p.exactMicros) := by
  rcases p.exact_or_long with hexact | ⟨hheld, hlong⟩
  · rw [hexact]
  rcases Instant.calendar_in_words with ⟨-, -, hlast, hend⟩
  have hwide : -word64Max < Instant.firstMicros := by decide
  have hpast : ∀ w : Int, word64Max ≤ w → i ≠ 0 → Instant.ofMicros? (i * w) = none := by
    intro w hw hi
    rw [Instant.ofMicros?_eq_none_iff]
    rcases Int.lt_or_gt_of_ne hi with hneg | hpos
    · have hmul := Int.mul_le_mul_of_nonneg_right (show i ≤ -1 by omega) (show 0 ≤ w by omega)
      omega
    · have hmul := Int.mul_le_mul_of_nonneg_right (show 1 ≤ i by omega) (show 0 ≤ w by omega)
      omega
  by_cases hi : i = 0
  · rw [hi, Int.zero_mul, Int.zero_mul]
  · rw [hpast _ hheld hi, hpast _ hlong hi]

/-- A window starts where it should, or with the last instant if the calendar has no such
    instant. -/
theorem windowStart_eq_exact (i : Int) :
    p.windowStart i = (Instant.ofMicros? (i * p.exactMicros)).getD Instant.last := by
  unfold windowStart
  simp only [Instant.ofMicros?_held, ofMicros?_mul_windowMicros]

/-- No number that comes up when an index is computed leaves the words, the number of the
    next window included. -/
theorem isWord64_of_index (t : Instant) :
    ∀ n ∈ [t.nanos.fdiv 1000000000 * 1000000, t.micros, p.windowMicros, p.windowAt t,
      p.windowAt t + 1], IsWord64 n := by
  rcases t.micros_bounds with ⟨hfirst, hlast⟩
  rcases Instant.calendar_in_words with ⟨hbegin, hzero, hpast, hend⟩
  have hwindow := p.windowMicros_eq
  have hpos := p.windowMicros_pos
  -- A quotient is no further from zero than its dividend, or is minus one.
  have hlow : Instant.firstMicros ≤ p.windowAt t := by
    refine (Int.le_ediv_iff_mul_le hpos).mpr ?_
    have hmul := Int.mul_le_mul_of_nonpos_left (Int.le_of_lt hzero)
      (show 1 ≤ p.windowMicros from hpos)
    omega
  have hhigh : p.windowAt t < Instant.lastMicros + 1 := by
    refine (Int.ediv_lt_iff_lt_mul hpos).mpr ?_
    have hmul := Int.mul_le_mul_of_nonneg_left (show 1 ≤ p.windowMicros from hpos)
      (show 0 ≤ Instant.lastMicros + 1 by omega)
    omega
  have hseconds : t.micros - 1000000 < t.nanos.fdiv 1000000000 * 1000000 ∧
      t.nanos.fdiv 1000000000 * 1000000 ≤ t.micros := by
    rw [Int.fdiv_eq_ediv_of_nonneg _ (by decide), Instant.micros]
    omega
  have hroom : word64Min < Instant.firstMicros - 1000000 := by decide
  intro n hn
  unfold IsWord64
  simp only [List.mem_cons, List.not_mem_nil, or_false] at hn
  rcases hn with rfl | rfl | rfl | rfl | rfl <;> omega

variable {p} {i j : Int} {s r t : Instant}

/-- Starts and indexes are two sides of one division. -/
theorem start_le_iff (hs : Instant.ofMicros? (i * p.exactMicros) = some s) :
    s ≤ t ↔ i ≤ p.windowAt t := by
  rw [windowAt_eq_exact, Int.le_ediv_iff_mul_le p.exactMicros_pos]
  change s.nanos ≤ t.nanos ↔ _
  rw [(Instant.ofMicros?_eq_some_iff _ _).mp hs, Instant.micros]
  omega

theorem start_lt_start (hs : Instant.ofMicros? (i * p.exactMicros) = some s)
    (hr : Instant.ofMicros? (j * p.exactMicros) = some r) (hij : i < j) : s < r := by
  have hmul := Int.mul_lt_mul_of_pos_right hij p.exactMicros_pos
  change s.nanos < r.nanos
  rw [(Instant.ofMicros?_eq_some_iff _ _).mp hs, (Instant.ofMicros?_eq_some_iff _ _).mp hr]
  omega

theorem windowAt_start (hs : Instant.ofMicros? (i * p.exactMicros) = some s) :
    p.windowAt s = i := by
  have hmicros : s.micros = i * p.exactMicros := by
    rw [Instant.micros, (Instant.ofMicros?_eq_some_iff _ _).mp hs]
    exact Int.mul_ediv_cancel _ (by decide)
  rw [windowAt_eq_exact, hmicros]
  exact Int.mul_ediv_cancel _ (Int.ne_of_gt p.exactMicros_pos)

/-- Between an instant and the next window there is no other window. -/
theorem windowAt_eq_of_lt_start {u : Instant} (htu : t ≤ u)
    (hu : u < p.windowStart (p.windowAt t + 1)) : p.windowAt u = p.windowAt t := by
  have hle := p.windowAt_mono htu
  have hlt := p.windowAt_lt_of_lt_windowStart (Int.lt_succ _) hu
  omega

/-- If the next window begins past the calendar, the present one is the last. -/
theorem windowAt_last (hnone : Instant.ofMicros? ((p.windowAt t + 1) * p.exactMicros) = none) :
    p.windowAt Instant.last = p.windowAt t := by
  have hstart : t.micros < (p.windowAt t + 1) * p.exactMicros := by
    rw [windowAt_eq_exact]
    exact Int.lt_ediv_add_one_mul_self _ p.exactMicros_pos
  have hfirst := t.micros_bounds.1
  rw [Instant.ofMicros?_eq_none_iff] at hnone
  have hbefore : Instant.last.micros < (p.windowAt t + 1) * p.exactMicros := by
    have hlast := Instant.last.micros_bounds.2
    omega
  have hlt := (Int.ediv_lt_iff_lt_mul p.exactMicros_pos).mpr hbefore
  rw [← windowAt_eq_exact] at hlt
  have hle := p.windowAt_mono (show t ≤ Instant.last from t.le_last)
  omega

/-- **Windows are what they should be.** Let `w` be the length of a window, however long, and
    `k` the index of an instant. The index is the exact quotient by `w`, and none of the
    numbers in between leaves the words. Of the windows that begin within the calendar each
    begins `i * w` microseconds after the epoch, and does so by the instant just if `i` is
    no larger than `k`; later ones begin later. From the instant until the next window
    begins the index is `k`, and there it is the next one. If the next window begins past
    the calendar, then the last instant is told instead, and the index is `k` to the end. -/
theorem windows_exact (p : Policy) (t : Instant) :
    let w := p.exactMicros
    let k := p.windowAt t
    (k = (t.nanos.fdiv 1000).fdiv w ∧ p.windowMicros ≠ 0 ∧
      ∀ n ∈ [t.nanos.fdiv 1000000000 * 1000000, t.micros, p.windowMicros, k, k + 1],
        IsWord64 n) ∧
    (∀ i s, Instant.ofMicros? (i * w) = some s →
      p.windowStart i = s ∧ (p.windowStart i ≤ t ↔ i ≤ k)) ∧
    (∀ i j s r, Instant.ofMicros? (i * w) = some s → Instant.ofMicros? (j * w) = some r →
      i < j → p.windowStart i < p.windowStart j) ∧
    (t < Instant.last → t < p.windowStart (k + 1)) ∧
    (∀ u, t ≤ u → u < p.windowStart (k + 1) → p.windowAt u = k) ∧
    (∀ s, Instant.ofMicros? ((k + 1) * w) = some s →
      p.windowStart (k + 1) = s ∧ t < s ∧ p.windowAt s = k + 1) ∧
    (Instant.ofMicros? ((k + 1) * w) = none →
      p.windowStart (k + 1) = Instant.last ∧ p.windowAt Instant.last = k) := by
  intro w k
  have hstart : ∀ {i s}, Instant.ofMicros? (i * w) = some s → p.windowStart i = s := by
    intro i s hs
    rw [windowStart_eq_exact, hs, Option.getD_some]
  refine ⟨⟨?_, Int.ne_of_gt p.windowMicros_pos, p.isWord64_of_index t⟩, ?_, ?_,
    p.lt_windowStart (Int.lt_succ k), fun u => windowAt_eq_of_lt_start, ?_, ?_⟩
  · rw [Int.fdiv_eq_ediv_of_nonneg _ (show (0 : Int) ≤ 1000 by decide),
      Int.fdiv_eq_ediv_of_nonneg _ (show 0 ≤ w from Int.le_of_lt p.exactMicros_pos)]
    exact p.windowAt_eq_exact t
  · intro i s hs
    rw [hstart hs]
    exact ⟨rfl, start_le_iff hs⟩
  · intro i j s r hs hr hij
    rw [hstart hs, hstart hr]
    exact start_lt_start hs hr hij
  · intro s hs
    -- The next window does not start by the instant, as its index is larger.
    have hnot : ¬s ≤ t := fun hle => by
      have hindex := (start_le_iff hs).mp hle
      omega
    exact ⟨hstart hs, Int.not_le.mp hnot, windowAt_start hs⟩
  · intro hnone
    rw [windowStart_eq_exact, hnone]
    exact ⟨rfl, windowAt_last hnone⟩

/-- A nanosecond before the epoch a quarter of a second is about to end. Its index is minus
    one, the next window begins with the epoch, and no other instant lies between. A window
    of all the seconds there are begins before the calendar and ends with the epoch too. -/
theorem windows_exact_before_epoch :
    let p : Policy := ⟨1, ⟨250000000, by decide⟩⟩
    let long : Policy := ⟨1, ⟨18446744073709551615 * 1000000000, by decide⟩⟩
    let t : Instant := ⟨-1, by decide, by decide⟩
    Instant.ofMicros? ((p.windowAt t + 1) * p.exactMicros) = some Instant.epoch ∧
    (p.windowStart 0 = Instant.epoch ∧ t < Instant.epoch ∧ p.windowAt Instant.epoch = 0) ∧
    (¬p.windowStart 0 ≤ t) ∧
    Instant.ofMicros? ((long.windowAt Instant.epoch + 1) * long.exactMicros) = none ∧
    long.windowStart 1 = Instant.last ∧ long.windowAt Instant.last = 0 := by
  intro p long t
  have hindex : p.windowAt t = -1 := by decide
  have hepoch : long.windowAt Instant.epoch = 0 := by decide
  have hnext : Instant.ofMicros? ((p.windowAt t + 1) * p.exactMicros) = some Instant.epoch := by
    decide
  have hpast : Instant.ofMicros? ((long.windowAt Instant.epoch + 1) * long.exactMicros) = none := by
    decide
  rcases windows_exact p t with ⟨-, hadjoint, -, -, -, hedge, -⟩
  rcases windows_exact long Instant.epoch with ⟨-, -, -, -, -, -, hlast⟩
  have hstarts := hedge _ hnext
  have hends := hlast hpast
  rw [hindex] at hstarts
  rw [hepoch] at hends
  have hzero := hadjoint 0 Instant.epoch (by decide)
  refine ⟨hnext, hstarts, fun hle => ?_, hpast, hends⟩
  exact absurd (hzero.2.mp hle) (by decide)

end Policy

end Turnstile
