/-!
# Calendar

The proleptic Gregorian calendar, counted in days from 1970-01-01.

A year is taken to begin in March, so that the leap day is its last day and
the months before it follow one pattern of lengths. Four hundred such years
make an era of 146097 days, after which everything repeats.

A date exists when the calendar gives it back: when the day it counts to is
written as that date again. This refuses the thirtieth of February without a
table of month lengths.

## Main definitions

* `Date`: A year, a month and a day of the month.
* `Date.toDay`: The day a date counts to.
* `Date.ofDay`: The date of a day.
* `Date.exists?`: Whether the calendar has the date.
-/

namespace Turnstile

/-- A calendar date. -/
structure Date where
  /-- The year; the year before 1 is 0. -/
  year : Int
  /-- The month, from 1. -/
  month : Nat
  /-- The day of the month, from 1. -/
  day : Nat
deriving DecidableEq

namespace Date

/-- The days of four hundred years. -/
def daysPerEra : Int := 146097

/-- The days from the start of year 0, in March, to 1970-01-01. -/
def epochShift : Int := 719468

/-- The day a date counts to, from 1970-01-01. -/
def toDay (d : Date) : Int :=
  let year := if d.month ≤ 2 then d.year - 1 else d.year
  let month : Int := if d.month ≤ 2 then d.month + 9 else d.month - 3
  let yearOfEra := year % 400
  let dayOfYear := (153 * month + 2) / 5 + d.day - 1
  let dayOfEra := yearOfEra * 365 + yearOfEra / 4 - yearOfEra / 100 + dayOfYear
  year / 400 * daysPerEra + dayOfEra - epochShift

/-- The date of a day, counted from 1970-01-01. -/
def ofDay (n : Int) : Date :=
  let shifted := n + epochShift
  let dayOfEra := shifted % daysPerEra
  let yearOfEra := (dayOfEra - dayOfEra / 1460 + dayOfEra / 36524 - dayOfEra / 146096) / 365
  let dayOfYear := dayOfEra - (365 * yearOfEra + yearOfEra / 4 - yearOfEra / 100)
  let month := (5 * dayOfYear + 2) / 153
  let year := yearOfEra + shifted / daysPerEra * 400
  { year := if month < 10 then year else year + 1
    month := if month < 10 then (month + 3).toNat else (month - 9).toNat
    day := (dayOfYear - (153 * month + 2) / 5 + 1).toNat }

/-- Whether the calendar has the date. -/
def exists? (d : Date) : Bool :=
  1 ≤ d.month && d.month ≤ 12 && ofDay d.toDay == d

end Date

end Turnstile
