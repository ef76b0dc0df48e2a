/-!
# Binary Floating-Point Numbers

Real numbers in sixty-four bits, as IEEE 754 lays them out: a sign, eleven bits
for the exponent and fifty-two for the fraction. Without the sign, the bits of
larger numbers are larger numbers, so a number is kept by its sign and its bits,
and numbers are compared through them. Zero has two signs, which compare equal.

A ratio is rounded to the nearest number there is, and a tie goes to the one
with even bits. Ratios beyond the largest number become infinite.

## Main definitions

* `Binary64`: A number, finite or infinite.
* `Ratio`: A ratio of natural numbers.
* `Binary64.nearest`: The number nearest to a ratio.
* `Binary64.ofDecimal`: The number nearest to a decimal one.

## Theorems

* `compare_zero`: The two zeros compare equal.
-/

namespace Turnstile

/-- The bits of infinity. -/
def Binary64.infinityBits : Nat := 0x7ff0000000000000

/-- A floating-point number, finite or infinite. -/
structure Binary64 where
  /-- Whether the sign is a minus sign. -/
  negative : Bool
  /-- The bits of the exponent and the fraction. -/
  bits : Nat
  /-- Nothing lies beyond infinity. -/
  bits_le : bits ≤ Binary64.infinityBits
deriving DecidableEq

/-- A ratio of natural numbers: numerator and denominator. -/
structure Ratio where
  /-- The numerator. -/
  num : Nat
  /-- The denominator. -/
  den : Nat

namespace Ratio

/-- A ratio times a power of a base. -/
def scale (r : Ratio) (base : Nat) (exponent : Int) : Ratio :=
  if 0 ≤ exponent then { r with num := r.num * Nat.pow base exponent.toNat }
  else { r with den := r.den * Nat.pow base (-exponent).toNat }

/-- A ratio rounded to a natural number; halves go to the even neighbour. -/
def round (r : Ratio) : Nat :=
  let floor := r.num / r.den
  let rest := 2 * (r.num % r.den)
  if rest < r.den then floor
  else if r.den < rest then floor + 1
  else floor + floor % 2

/-- The largest exponent of a power of two that is not above a ratio. -/
def log2 (r : Ratio) : Int :=
  let guess : Int := (Nat.log2 r.num : Int) - Nat.log2 r.den
  let scaled := r.scale 2 (-guess)
  if scaled.den ≤ scaled.num then guess else guess - 1

end Ratio

namespace Binary64

/-- The bits of the fraction, and with it the bits of the least normal number. -/
def fractionSize : Nat := 0x10000000000000

/-- The exponent of the least number above zero, as a power of two. -/
def leastExponent : Int := -1074

/-- Zero. -/
def zero (negative : Bool) : Binary64 := ⟨negative, 0, by decide⟩

/-- Infinity. -/
def infinity (negative : Bool) : Binary64 := ⟨negative, infinityBits, Nat.le_refl _⟩

/-- Whether a number is infinite. -/
def isInfinite (x : Binary64) : Bool :=
  x.bits == infinityBits

/-- The number nearest to a ratio. -/
def nearest (negative : Bool) (r : Ratio) : Binary64 :=
  if r.num = 0 then zero negative
  else
    let exponent := max (r.log2 - 52) leastExponent
    let fraction := (r.scale 2 (-exponent)).round
    let bits := (exponent - leastExponent).toNat * fractionSize + fraction
    ⟨negative, min bits infinityBits, Nat.min_le_right _ _⟩

/-- The number nearest to `digits * 10 ^ exponent`. What is far out of range is
    told from the number of digits. -/
def ofDecimal (negative : Bool) (digits : Nat) (exponent : Int) : Binary64 :=
  let magnitude := (Nat.toDigits 10 digits).length + exponent
  if digits = 0 ∨ magnitude < -400 then zero negative
  else if 400 < magnitude then infinity negative
  else nearest negative (Ratio.scale ⟨digits, 1⟩ 10 exponent)

/-- The number that numbers are ordered by. -/
def rank (x : Binary64) : Int :=
  if x.negative then -x.bits else x.bits

instance : Ord Binary64 := ⟨compareOn (·.rank)⟩

/-- The two zeros compare equal. -/
theorem compare_zero : compare (zero true) (zero false) = .eq :=
  rfl

/-- The significand and the exponent of a finite number: it is the first times two
    to the power of the second. -/
def parts (x : Binary64) : Nat × Int :=
  let field := x.bits / fractionSize
  let fraction := x.bits % fractionSize
  if field = 0 then (fraction, leastExponent)
  else (fractionSize + fraction, leastExponent + field - 1)

end Binary64

end Turnstile
