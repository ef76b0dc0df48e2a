/-!
# Spans

Lengths of time, as whole nanoseconds below `2 ^ 64` seconds. Window sizes and
waiting limits are spans.

The debug form writes a span in the largest unit of which it holds at least
one, with as many decimals as it takes and no trailing zeros: `2s`, `1.5s`,
`250ms`, `1.5µs`, `0ns`.

## Main definitions

* `Span`: A length of time.
* `Span.ofSeconds`: A span of whole seconds.
* `Span.ofParts?`: Seconds and nanoseconds, where a full second carries.
* `Span.debug`: The debug form.
-/

namespace Turnstile

/-- The nanoseconds of a second. -/
def nanosPerSecond : Nat := 1000000000

/-- The first number of nanoseconds that is too long for a span. -/
def Span.limit : Nat := UInt64.size * nanosPerSecond

/-- A length of time in whole nanoseconds. -/
structure Span where
  /-- The length in nanoseconds. -/
  nanos : Nat
  /-- The length is below `2 ^ 64` seconds. -/
  short : nanos < Span.limit
deriving DecidableEq

namespace Span

/-- The empty span. -/
def zero : Span := ⟨0, by decide⟩

instance : Inhabited Span := ⟨zero⟩

/-- The span of a number of nanoseconds, if it is short enough. -/
def ofNanos? (n : Nat) : Option Span :=
  if h : n < limit then some ⟨n, h⟩ else none

/-- The span of `s` seconds and `n` nanoseconds; a full second of nanoseconds
    carries, and what the carry pushes past the limit is no span. -/
def ofParts? (s n : Nat) : Option Span :=
  ofNanos? (s * nanosPerSecond + n)

/-- The span of a number of whole seconds. -/
def ofSeconds (s : UInt64) : Span :=
  ⟨s.toNat * nanosPerSecond, Nat.mul_lt_mul_of_pos_right s.toNat_lt (by decide)⟩

/-- The whole seconds of a span. -/
def seconds (d : Span) : Nat := d.nanos / nanosPerSecond

/-- The nanoseconds past the last whole second. -/
def subsecond (d : Span) : Nat := d.nanos % nanosPerSecond

/-- Whether the span is empty. -/
def isZero (d : Span) : Bool := d.nanos == 0

instance : Ord Span := ⟨compareOn (·.nanos)⟩

instance : Std.TransOrd Span :=
  inferInstanceAs (Std.TransCmp (compareOn (fun d : Span => d.nanos)))

instance : Std.LawfulEqOrd Span where
  eq_of_compare {a b} h := by
    have hn : a.nanos = b.nanos := Std.LawfulEqOrd.eq_of_compare h
    rcases a with ⟨n, hn'⟩
    cases hn
    rfl

/-- The digits of `n / 10 ^ width` behind the point, without trailing zeros. -/
def fractionDigits (n width : Nat) : List Char :=
  let digits := Nat.toDigits 10 n
  let padded := List.replicate (width - digits.length) '0' ++ digits
  (padded.reverse.dropWhile (· == '0')).reverse

/-- A whole number of units with `width` decimals of the next one. -/
def inUnit (nanos width : Nat) (unit : String) : String :=
  let whole := toString (nanos / Nat.pow 10 width)
  let rest := nanos % Nat.pow 10 width
  if rest == 0 then whole ++ unit
  else whole ++ "." ++ String.ofList (fractionDigits rest width) ++ unit

/-- The debug form of a span: seconds, milliseconds, microseconds or
    nanoseconds, whichever is the largest unit that fits. -/
def debug (d : Span) : String :=
  if nanosPerSecond ≤ d.nanos then inUnit d.nanos 9 "s"
  else if 1000000 ≤ d.nanos then inUnit d.nanos 6 "ms"
  else if 1000 ≤ d.nanos then inUnit d.nanos 3 "µs"
  else toString d.nanos ++ "ns"

end Span

end Turnstile
