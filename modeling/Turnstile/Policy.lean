import Turnstile.Time.Instant

/-!
# Policies

A policy admits a quota of requests per window of time. Windows have one
length and are counted from the Unix epoch, so all policies with the same
window length share their boundaries.

Windows are measured in whole microseconds. A window shorter than one
microsecond counts as one, and one longer than a signed 64-bit count of
microseconds counts as the longest such count. The first instant of a window
that lies outside the calendar is taken to be the last instant there is, so a
wait for it never ends early.

## Main definitions

* `Policy`: A quota and a window length.
* `Policy.windowMicros`: The length of a window in microseconds.
* `Policy.windowAt`: The index of the window that contains an instant.
* `Policy.windowStart`: The first instant of a window.
* `Policy.text`: A policy in words, as in `5 per 2s`.

## Theorems

* `windowMicros_pos`: No window is empty.
-/

namespace Turnstile

/-- The smallest signed 64-bit number. -/
def word64Min : Int := -0x8000000000000000

/-- The largest signed 64-bit number. -/
def word64Max : Int := 0x7fffffffffffffff

/-- A rate limit: at most `quota` admissions in each window. -/
structure Policy where
  /-- The admissions of one window. -/
  quota : UInt32
  /-- The length of a window. -/
  window : Span
deriving DecidableEq

namespace Policy

/-- The length of a window in whole microseconds, at least one and at most the
    largest signed 64-bit number. -/
def windowMicros (p : Policy) : Int :=
  max 1 (min word64Max ((p.window.nanos / 1000 : Nat) : Int))

/-- No window is empty. -/
theorem windowMicros_pos (p : Policy) : 0 < p.windowMicros := by
  have h : (1 : Int) ≤ p.windowMicros := Int.le_max_left ..
  omega

/-- The index of the window that contains an instant, counted from the epoch;
    windows before the epoch have negative indexes. -/
def windowAt (p : Policy) (t : Instant) : Int :=
  t.micros / p.windowMicros

/-- The first instant of a window. The microseconds to it are held to 64 bits;
    where they leave the calendar the answer is the last instant. -/
def windowStart (p : Policy) (index : Int) : Instant :=
  let micros := max word64Min (min word64Max (index * p.windowMicros))
  (Instant.ofMicros? micros).getD Instant.last

/-- A policy in words. -/
def text (p : Policy) : String :=
  toString p.quota.toNat ++ " per " ++ p.window.debug

/-- Policies are ordered by quota, then by window length. -/
instance : Ord Policy := ⟨compareLex (compareOn (·.quota)) (compareOn (·.window))⟩

instance : Std.TransOrd Policy :=
  inferInstanceAs (Std.TransCmp
    (compareLex (compareOn (fun p : Policy => p.quota)) (compareOn (fun p => p.window))))

instance : Std.LawfulEqOrd Policy where
  eq_of_compare {a b} h := by
    rcases a with ⟨q, w⟩
    rcases b with ⟨q', w'⟩
    have h' := compareLex_eq_eq.mp h
    have hq : q = q' := Std.LawfulEqOrd.eq_of_compare h'.1
    have hw : w = w' := Std.LawfulEqOrd.eq_of_compare h'.2
    rw [hq, hw]

end Policy

end Turnstile
