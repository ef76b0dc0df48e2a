/-!
# Decimal Digits

Reading and writing natural numbers in decimal, on lists of characters. Only
the ten ASCII digits count as digits, and the letters up to `F` in larger bases.

## Main definitions

* `Text.digitValue?`: The value of a digit in a base up to sixteen.
* `Text.number`, `Text.numberIn`: The value of a list of digits.
* `Text.scalar?`: The character of a code point.
* `Text.takeDigits`: A leading run of digits, up to a length.
* `Text.natural?`: A text of digits only.
* `Text.signedNatural?`: The same, with a plus sign allowed in front.
* `Text.pad`: A number with leading zeros up to a width.
-/

namespace Turnstile

namespace Text

/-- Whether a character is one of the ten ASCII digits. -/
def isDigit (c : Char) : Bool :=
  '0' ≤ c && c ≤ '9'

/-- The value of a hexadecimal digit, if it is one in the base. -/
def digitValue? (base : Nat) (c : Char) : Option Nat :=
  let value :=
    if isDigit c then c.toNat - '0'.toNat
    else if 'a' ≤ c && c ≤ 'f' then c.toNat - 'a'.toNat + 10
    else if 'A' ≤ c && c ≤ 'F' then c.toNat - 'A'.toNat + 10
    else 16
  if value < base then some value else none

/-- The value of a list of decimal digits. -/
def number (digits : List Char) : Nat :=
  Nat.ofDigitChars 10 digits 0

/-- The value of a list of digits in a base up to sixteen; what is no digit
    counts zero. -/
def numberIn (base : Nat) (digits : List Char) : Nat :=
  digits.foldl (fun n c => n * base + (digitValue? base c).getD 0) 0

/-- The character of a code point, if it is one. -/
def scalar? (n : Nat) : Option Char :=
  if n.isValidChar then some (Char.ofNat n) else none

/-- The leading digits of a text, at most `most` of them, and what follows. -/
def takeDigits : Nat → List Char → List Char × List Char
  | 0, cs => ([], cs)
  | _ + 1, [] => ([], [])
  | most + 1, c :: cs =>
    if isDigit c then
      let (digits, rest) := takeDigits most cs
      (c :: digits, rest)
    else ([], c :: cs)

/-- The number written by a text of digits, at least one. -/
def natural? (cs : List Char) : Option Nat :=
  if !cs.isEmpty && cs.all isDigit then some (number cs) else none

/-- The number written by digits behind an optional plus sign. -/
def signedNatural? : List Char → Option Nat
  | '+' :: cs => natural? cs
  | cs => natural? cs

/-- A number in decimal, with leading zeros up to a width. -/
def pad (width n : Nat) : List Char :=
  let digits := Nat.toDigits 10 n
  List.replicate (width - digits.length) '0' ++ digits

end Text

end Turnstile
