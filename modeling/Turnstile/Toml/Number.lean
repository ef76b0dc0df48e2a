import Turnstile.Binary64.Basic
import Turnstile.Data.Value
import Turnstile.Reader
import Turnstile.Text.Digits
import Turnstile.Time.Calendar

/-!
# Numbers and Dates

Integers, floating-point numbers, dates and times of day in TOML. Underscores
may stand between digits. Integers have sixty-four bits with a sign; in
hexadecimal, octal and binary there is no sign. A floating-point number must
not be so large that it becomes infinite.

Nothing in a configuration is a floating-point number or a date, so a value of
these kinds keeps only its written form. A date or time is an object with one
member.

## Main definitions

* `Toml.integer`: An integer.
* `Toml.float`: A floating-point number.
* `Toml.dateTime`: A date, a time of day, or both.
-/

namespace Turnstile

namespace Toml

open Reader

/-- Digits of a base, with single underscores between them. -/
def digits (base : Nat) : Reader (List Char) := do
  let digit := take fun c => (Text.digitValue? base c).isSome
  let first ← digit
  let others ← many (digit <|> (word "_" *> digit))
  return first :: others

/-- A sign, if there is one; whether it is a minus sign. -/
def sign : Reader Bool := do
  let s ← maybe (take fun c => c == '+' || c == '-')
  return s == some '-'

/-- The digits of a decimal number without leading zeros. -/
def decimalDigits : Reader (List Char) :=
  (do word "0"; return ['0']) <|> digits 10

/-- An integer of a base behind its mark. -/
def basedInteger (mark : String) (base : Nat) : Reader Int := do
  word mark
  let n := Text.numberIn base (← digits base)
  if 0x8000000000000000 ≤ n then failure
  return n

/-- An integer in decimal. -/
def decimalInteger : Reader Int := do
  let negative ← sign
  let n := Text.number (← decimalDigits)
  if negative then
    if 0x8000000000000000 < n then failure
    return -n
  else
    if 0x8000000000000000 ≤ n then failure
    return n

/-- An integer. -/
def integer : Reader Value := do
  let n ← basedInteger "0x" 16 <|> basedInteger "0o" 8 <|> basedInteger "0b" 2 <|> decimalInteger
  return .int n

/-- The digits behind a decimal point. -/
def fraction : Reader (List Char) := do
  word "."
  digits 10

/-- The exponent of a floating-point number. -/
def exponent : Reader Int := do
  let _ ← take fun c => c == 'e' || c == 'E'
  let negative ← sign
  let n := Text.number (← digits 10)
  return if negative then -n else n

/-- A floating-point number in decimal, with a fraction or an exponent. -/
def decimalFloat : Reader Unit := do
  let negative ← sign
  let whole ← decimalDigits
  let behind ← maybe fraction
  let power ← if behind.isSome then maybe exponent else some <$> exponent
  let behind := behind.getD []
  let x := Binary64.ofDecimal negative (Text.number (whole ++ behind))
    (power.getD 0 - behind.length)
  if x == .infinity false then failure

/-- Infinity, or what is not a number. -/
def specialFloat : Reader Unit := do
  let _ ← sign
  word "inf" <|> word "nan"

/-- A floating-point number. -/
def float : Reader Value := do
  return .real (String.ofList (← written (decimalFloat <|> specialFloat)))

/-- A number in exactly so many digits, within bounds. -/
def fixed (width least most : Nat) : Reader Nat := do
  let ds ← (List.replicate width ()).mapM fun _ => take Text.isDigit
  let n := Text.number ds
  if n < least || most < n then failure
  return n

/-- A day of the calendar. -/
def date : Reader Unit := do
  let year ← fixed 4 0 9999
  word "-"
  let month ← fixed 2 1 12
  word "-"
  let day ← fixed 2 1 31
  if !(Date.mk year month day).exists? then failure

/-- A time of day. A minute may have a leap second. -/
def timeOfDay : Reader Unit := do
  let _ ← fixed 2 0 23
  word ":"
  let _ ← fixed 2 0 59
  word ":"
  let _ ← fixed 2 0 60
  let _ ← maybe (word "." *> someRun Text.isDigit)

/-- The distance of a time of day from universal time. -/
def offset : Reader Unit := do
  let universal := take fun c => c == 'Z' || c == 'z'
  let away : Reader Char := do
    let s ← take fun c => c == '+' || c == '-'
    let _ ← fixed 2 0 23
    word ":"
    let _ ← fixed 2 0 59
    return s
  let _ ← universal <|> away

/-- A time of day behind a date. -/
def laterTime : Reader Unit := do
  let _ ← take fun c => c == 'T' || c == 't' || c == ' '
  timeOfDay
  let _ ← maybe offset

/-- A date, a time of day, or both. -/
def dateTime : Reader Value := do
  let both : Reader Unit := do
    date
    let _ ← maybe laterTime
  let w ← written (both <|> timeOfDay)
  return .object [("$datetime", .text (String.ofList w))]

end Toml

end Turnstile
