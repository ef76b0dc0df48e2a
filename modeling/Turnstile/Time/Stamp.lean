import Turnstile.Text.Blank
import Turnstile.Text.Digits
import Turnstile.Time.Calendar
import Turnstile.Time.Instant

/-!
# Written Instants

Instants as text: `YYYY-MM-DDTHH:MM:SS[.fraction]Z`, in UTC. The fraction is
left out when it is zero and otherwise has three, six or nine digits, the
fewest that are exact. Years outside 0 to 9999 carry a sign and at least four
digits.

Reading is more lenient than writing. Date and time are separated by `T`, `t`
or a space; the fraction may have any number of digits, of which those past the
ninth are dropped; numbers may lack leading zeros, and blanks may stand around
them; the offset from UTC is `Z`, `z`, `UTC` or signed hours and minutes, up to
23 hours. Second 60 is read as a leap second, which belongs to the second
before it and is written as `60` again. `Stamp` is an instant together with
that one bit.

## Main definitions

* `Stamp`: An instant as it is written.
* `Stamp.text`: The written form.
* `Stamp.parse?`: Reading of a written instant.
* `Instant.text`: The written form of an instant outside a leap second.
-/

namespace Turnstile

/-- An instant as it is written. -/
structure Stamp where
  /-- The instant; a leap second lies within the second before it. -/
  instant : Instant
  /-- Whether the second is written as the one after it. -/
  leap : Bool := false
deriving DecidableEq

namespace Stamp

/-- The seconds of a day. -/
def secondsPerDay : Int := 86400

/-- A year with at least four digits, and with a sign outside 0 to 9999. -/
def yearText (year : Int) : List Char :=
  if 0 ≤ year ∧ year ≤ 9999 then Text.pad 4 year.toNat
  else (if year < 0 then '-' else '+') :: Text.pad 4 year.natAbs

/-- The fraction of a second with the fewest of three, six or nine digits. -/
def fractionText (nanos : Nat) : List Char :=
  if nanos = 0 then []
  else if nanos % 1000000 = 0 then '.' :: Text.pad 3 (nanos / 1000000)
  else if nanos % 1000 = 0 then '.' :: Text.pad 6 (nanos / 1000)
  else '.' :: Text.pad 9 nanos

/-- The written form. -/
def text (s : Stamp) : String :=
  let seconds := s.instant.nanos / 1000000000
  let fraction := (s.instant.nanos % 1000000000).toNat
  let date := Date.ofDay (seconds / secondsPerDay)
  let time := (seconds % secondsPerDay).toNat
  String.ofList <|
    yearText date.year ++ '-' :: Text.pad 2 date.month ++ '-' :: Text.pad 2 date.day ++
      'T' :: Text.pad 2 (time / 3600) ++ ':' :: Text.pad 2 (time / 60 % 60) ++
      ':' :: Text.pad 2 (time % 60 + if s.leap then 1 else 0) ++ fractionText fraction ++ ['Z']

/-- A number of up to `most` digits behind optional blanks. -/
def takeNumber (most : Nat) (cs : List Char) : Option (Nat × List Char) :=
  match Text.takeDigits most (Text.skipBlank cs) with
  | ([], _) => none
  | (digits, rest) => some (Text.number digits, rest)

/-- A character behind optional blanks. -/
def takeMark (mark : Char) (cs : List Char) : Option (List Char) :=
  match Text.skipBlank cs with
  | c :: rest => if c = mark then some rest else none
  | [] => none

/-- A year: up to four digits, or a sign and any number of digits. -/
def takeYear (cs : List Char) : Option (Int × List Char) :=
  match Text.skipBlank cs with
  | '-' :: rest => (digitsOf rest).map fun (n, rest) => (-(n : Int), rest)
  | '+' :: rest => (digitsOf rest).map fun (n, rest) => ((n : Int), rest)
  | rest => (takeNumber 4 rest).map fun (n, rest) => ((n : Int), rest)
where
  /-- As many digits as there are, at least one. -/
  digitsOf (cs : List Char) : Option (Nat × List Char) :=
    match Text.takeDigits cs.length cs with
    | ([], _) => none
    | (digits, rest) => some (Text.number digits, rest)

/-- The nanoseconds of an optional fraction; digits past the ninth are dropped. -/
def takeFraction (cs : List Char) : Option (Nat × List Char) :=
  match cs with
  | '.' :: rest =>
    match Text.takeDigits 9 rest with
    | ([], _) => none
    | (digits, rest) =>
      some (Text.number digits * Nat.pow 10 (9 - digits.length), rest.dropWhile Text.isDigit)
  | _ => some (0, cs)

/-- An offset from UTC in minutes, and what follows it. -/
def takeOffset (cs : List Char) : Option (Int × List Char) :=
  match cs with
  | 'Z' :: rest => some (0, rest)
  | 'z' :: rest => some (0, rest)
  | u :: t :: c :: rest =>
    if u.toLower = 'u' ∧ t.toLower = 't' ∧ c.toLower = 'c' then some (0, rest)
    else if u = '+' then minutesOf (t :: c :: rest)
    else if u = '-' ∨ u = '−' then
      (minutesOf (t :: c :: rest)).map fun (n, rest) => (-n, rest)
    else none
  | _ => none
where
  /-- Two digits of hours and two of minutes, with colons or blanks between. -/
  minutesOf (cs : List Char) : Option (Int × List Char) := do
    let (h₁, h₂, rest) ← twoDigits cs
    let rest := rest.dropWhile fun c => c == ':' || Text.isBlank c
    let (m₁, m₂, rest) ← twoDigits rest
    if h₁ * 10 + h₂ < 24 ∧ m₁ < 6 then
      some (((h₁ * 10 + h₂) * 60 + m₁ * 10 + m₂ : Nat), rest)
    else none
  /-- Two digits in a row. -/
  twoDigits (cs : List Char) : Option (Nat × Nat × List Char) :=
    match cs with
    | a :: b :: rest => do
      let a ← Text.digitValue? 10 a
      let b ← Text.digitValue? 10 b
      some (a, b, rest)
    | _ => none

/-- The instant of a date and a time of day at an offset from UTC. -/
def assemble? (date : Date) (hour minute second nanos : Nat) (offset : Int) : Option Stamp :=
  if date.exists? ∧ hour < 24 ∧ minute < 60 ∧ second ≤ 60 then
    let leap := second == 60
    let second := if leap then 59 else second
    let shown := date.toDay * secondsPerDay + (hour * 3600 + minute * 60 + second : Nat)
    -- The calendar must have the instant at the offset, too.
    match Instant.ofParts? shown nanos, Instant.ofParts? (shown - offset * 60) nanos with
    | some _, some instant => some { instant, leap }
    | _, _ => none
  else none

/-- Read a written instant. -/
def parse? (s : String) : Option Stamp := do
  let (year, cs) ← takeYear s.toList
  let (month, cs) ← takeNumber 2 (← takeMark '-' cs)
  let (day, cs) ← takeNumber 2 (← takeMark '-' cs)
  let cs ←
    match cs with
    | c :: rest => if c = 'T' ∨ c = 't' ∨ c = ' ' then some rest else none
    | [] => none
  let (hour, cs) ← takeNumber 2 cs
  let (minute, cs) ← takeNumber 2 (← takeMark ':' cs)
  let (second, cs) ← takeNumber 2 (← takeMark ':' cs)
  let (nanos, cs) ← takeFraction cs
  let (offset, cs) ← takeOffset (Text.skipBlank cs)
  if Text.skipBlank cs = [] then assemble? { year, month, day } hour minute second nanos offset
  else none

end Stamp

/-- The written form of an instant. -/
def Instant.text (t : Instant) : String :=
  Stamp.text { instant := t }

end Turnstile
