import Turnstile.Binary64.Basic
import Turnstile.Reader
import Turnstile.Text.Digits

/-!
# Written Floating-Point Numbers

Floating-point numbers as text. Written is the decimal number with the fewest
digits that is read back as the same number; of two with as few digits, the
nearer one, and the larger one if both are as near. It is written without an
exponent, and without a point if it is whole.

Reading takes digits with a point somewhere among them, and an exponent if
there is one, behind a sign; or infinity, or what is not a number, by name.

## Main definitions

* `Binary64.shortest`: The digits of a number, and where they stand.
* `Binary64.text`: The written form.
* `Binary64.Reading`, `Binary64.parse?`: Reading of a written number.
-/

namespace Turnstile

namespace Binary64

/-! ### Writing -/

/-- What is read as one number, in quarters of its last place. -/
structure Neighbourhood where
  /-- The number itself. -/
  value : Nat
  /-- The lower end. -/
  low : Nat
  /-- The upper end. -/
  high : Nat
  /-- Whether the ends are read as the number, too. -/
  closed : Bool
  /-- A quarter of the last place is two to the power of this. -/
  exponent : Int

/-- What is read as a number. Below a power of two the next number is only half as
    far away. -/
def neighbourhood (x : Binary64) : Neighbourhood :=
  let (significand, exponent) := x.parts
  { value := 4 * significand
    low := 4 * significand - if significand = fractionSize then 1 else 2
    high := 4 * significand + 2
    closed := significand % 2 == 0
    exponent := exponent - 2 }

/-- The multiple of `10 ^ place` that is written for a number, if one is read as
    it: of the two next to the number the one that is, or the nearer one. -/
def Neighbourhood.multiple? (s : Neighbourhood) (place : Int) : Option Nat :=
  let unit := (Ratio.scale ⟨1, 1⟩ 2 s.exponent).scale 10 (-place)
  let below := s.value * unit.num / unit.den
  let fits := fun n : Nat =>
    if s.closed then s.low * unit.num ≤ n * unit.den ∧ n * unit.den ≤ s.high * unit.num
    else s.low * unit.num < n * unit.den ∧ n * unit.den < s.high * unit.num
  if fits below then
    if fits (below + 1) ∧ (2 * below + 1) * unit.den ≤ 2 * (s.value * unit.num) then
      some (below + 1)
    else some below
  else if fits (below + 1) then some (below + 1)
  else none

/-- The highest place that a digit of a finite number can have. -/
def highestPlace : Nat := 310

/-- The number of places that a digit of a finite number can have. -/
def places : Nat := 660

/-- The digits of a finite number other than zero and the place of the last one:
    the number is read from the first times ten to the power of the second. -/
def shortest (x : Binary64) : Nat × Int :=
  let found := (List.range places).findSome? fun (n : Nat) =>
    let place : Int := (highestPlace : Int) - n
    (x.neighbourhood.multiple? place).map (·, place)
  found.getD (0, 0)

/-- Zeros in a row. -/
def zeros (n : Nat) : List Char := List.replicate n '0'

/-- The number `digits * 10 ^ place` without an exponent. -/
def positional (digits : Nat) (place : Int) : List Char :=
  let written := Nat.toDigits 10 digits
  if 0 ≤ place then written ++ zeros place.toNat
  else
    let behind := (-place).toNat
    let written := zeros (behind + 1 - written.length) ++ written
    let whole := written.length - behind
    written.take whole ++ '.' :: written.drop whole

/-- The written form. -/
def text (x : Binary64) : String :=
  let magnitude :=
    if x.isInfinite then "inf".toList
    else if x.bits = 0 then ['0']
    else positional x.shortest.1 x.shortest.2
  String.ofList (if x.negative then '-' :: magnitude else magnitude)

/-! ### Reading -/

/-- What a written number says. -/
inductive Reading where
  /-- It is not a number. -/
  | notANumber
  /-- It is a number. -/
  | number (x : Binary64)

open Reader

/-- An exponent of ten. -/
def exponentPart : Reader Int := do
  let _ ← take fun c => c == 'e' || c == 'E'
  let sign ← maybe (take fun c => c == '+' || c == '-')
  let n := Text.number (← someRun Text.isDigit)
  return if sign == some '-' then -n else n

/-- A decimal number without a sign, which may lack digits on either side of the
    point but not on both. -/
def decimal (negative : Bool) : Reader Binary64 := do
  let whole ← run Text.isDigit
  let fraction ← maybe (word "." *> run Text.isDigit)
  let behind := fraction.getD []
  if whole.isEmpty && behind.isEmpty then failure
  let power ← maybe exponentPart
  return ofDecimal negative (Text.number (whole ++ behind)) (power.getD 0 - behind.length)

/-- What a name says, in which the case of letters does not matter. -/
def named (negative : Bool) : Reader Reading := do
  let name := String.ofList ((← run fun _ => true).map Char.toLower)
  if name = "inf" ∨ name = "infinity" then return .number (infinity negative)
  else if name = "nan" then return .notANumber
  else failure

/-- A written number. -/
def reading : Reader Reading := do
  let sign ← maybe (take fun c => c == '+' || c == '-')
  let negative := sign == some '-'
  (do
    let x ← decimal negative
    done
    return .number x) <|> named negative

/-- Read a written number. -/
def parse? (s : String) : Option Reading :=
  (reading s.toList).map (·.1)

end Binary64

end Turnstile
