/-!
# Dates

Dates of the Gregorian calendar, extended to all years, with the day, week and quarter numbers that go with them. A
date is tied to the number of days since 1970-01-01, which is negative before.
-/

namespace EventRules.Calendar

/-- A date. Months and days count from 1; the year before year 1 is year 0. -/
structure Date where
  year : Int
  month : Nat
  day : Nat
  deriving DecidableEq, Repr

/-- The days of the week. -/
inductive Weekday where
  | monday
  | tuesday
  | wednesday
  | thursday
  | friday
  | saturday
  | sunday
  deriving DecidableEq, Repr, Inhabited

namespace Weekday

/-- The number of a day of the week, from Monday as 0. -/
def number : Weekday → Nat
  | monday => 0
  | tuesday => 1
  | wednesday => 2
  | thursday => 3
  | friday => 4
  | saturday => 5
  | sunday => 6

/-- The day of the week a number of days after a Monday. -/
def ofNumber (n : Nat) : Weekday :=
  match n % 7 with
  | 0 => monday
  | 1 => tuesday
  | 2 => wednesday
  | 3 => thursday
  | 4 => friday
  | 5 => saturday
  | _ => sunday

/-- How many days the second weekday comes after the first, less than a week. -/
def after (a b : Weekday) : Nat :=
  (b.number + 7 - a.number) % 7

end Weekday

/-- Whether a year has a 29th of February. -/
def isLeapYear (y : Int) : Bool :=
  y % 4 = 0 && (y % 100 ≠ 0 || y % 400 = 0)

/-- The number of days in a year. -/
def daysInYear (y : Int) : Nat :=
  if isLeapYear y then 366 else 365

/-- The number of days in a month of a year. -/
def daysInMonth (y : Int) (m : Nat) : Nat :=
  match m with
  | 2 => if isLeapYear y then 29 else 28
  | 4 | 6 | 9 | 11 => 30
  | _ => 31

/-- The number of days in a year before a month. -/
def daysBeforeMonth (y : Int) : (m : Nat) → Nat
  | 0 | 1 => 0
  | m + 2 => daysBeforeMonth y (m + 1) + daysInMonth y (m + 1)

/-- The number of days from 1970-01-01 to the first day of a year. -/
def daysBeforeYear (y : Int) : Int :=
  let before := y - 1
  365 * before + before / 4 - before / 100 + before / 400 - 719162

/-- The years of the dates that are told. -/
def firstYear : Int := -262143
def lastYear : Int := 262142

/-- A year that is written lies between this one and its negative, less one. -/
def lastWrittenYear : Int := 2147483647

namespace Date

/-- The day of the year, from 1. -/
def ordinal (d : Date) : Nat :=
  daysBeforeMonth d.year d.month + d.day

/-- The number of days since 1970-01-01. -/
def days (d : Date) : Int :=
  daysBeforeYear d.year + d.ordinal - 1

/-- The date a number of days after 1970-01-01. Years are counted from March, so that a leap day ends its year, in
periods of 400 years, which all have the same days. -/
def ofDays (n : Int) : Date :=
  let shifted := n + 719468
  let period := shifted / 146097
  let dayOfPeriod := (shifted % 146097).toNat
  let year := (dayOfPeriod - dayOfPeriod / 1460 + dayOfPeriod / 36524 - dayOfPeriod / 146096) / 365
  let dayOfYear := dayOfPeriod - (365 * year + year / 4 - year / 100)
  let month := (5 * dayOfYear + 2) / 153
  let day := dayOfYear - (153 * month + 2) / 5 + 1
  let turned := 10 ≤ month
  { year := year + 400 * period + (if turned then 1 else 0)
    month := if turned then month - 9 else month + 3
    day }

/-- Whether the year is one of those that are told. -/
def isTold (d : Date) : Bool :=
  firstYear ≤ d.year && d.year ≤ lastYear

/-- The date, if its year is told. -/
def told? (d : Date) : Option Date :=
  if d.isTold then some d else none

/-- The date of a month and a day. -/
def ofMonthDay? (year : Int) (month day : Nat) : Option Date :=
  if 1 ≤ month && month ≤ 12 && 1 ≤ day && day ≤ daysInMonth year month then told? { year, month, day }
  else none

/-- The date of a day of a year. -/
def ofOrdinal? (year : Int) (ordinal : Nat) : Option Date :=
  if 1 ≤ ordinal && ordinal ≤ daysInYear year then told? (ofDays (daysBeforeYear year + ordinal - 1)) else none

/-- The day of the week. -/
def weekday (d : Date) : Weekday :=
  .ofNumber ((d.days + 3) % 7).toNat

/-- The quarter of the year, from 1. -/
def quarter (d : Date) : Nat :=
  (d.month - 1) / 3 + 1

/-- The week of the year if weeks start on a weekday; the days before the first of them are in week 0. -/
def weekFrom (start : Weekday) (d : Date) : Nat :=
  (d.ordinal + 6 - Weekday.after start d.weekday) / 7

/-- The Thursday of the week of a date, Monday being the first day of the week. -/
def thursday (d : Date) : Date :=
  ofDays (d.days - d.weekday.number + 3)

/-- The year and the week of the ISO calendar, where a week belongs to the year of its Thursday. -/
def isoWeek (d : Date) : Int × Nat :=
  (d.thursday.year, (d.thursday.ordinal - 1) / 7 + 1)

/-- The date of a weekday of a week of the ISO calendar. The fourth of January lies in the first week. -/
def ofIsoWeek? (year : Int) (week : Nat) (weekday : Weekday) : Option Date :=
  let fourth : Date := { year, month := 1, day := 4 }
  let date := ofDays (fourth.days - fourth.weekday.number + 7 * ((week : Int) - 1) + weekday.number)
  if date.isoWeek = (year, week) then told? date else none

/-- The date of a weekday in a week of the year, weeks starting on a weekday. -/
def ofWeek? (year : Int) (week : Nat) (start weekday : Weekday) : Option Date := do
  let newYear ← ofOrdinal? year 1
  let firstWeek := 1 + Weekday.after newYear.weekday start
  let ordinal := firstWeek + 7 * week + Weekday.after start weekday
  if ordinal ≤ 7 then none else ofOrdinal? year (ordinal - 7)

end Date

/-- The names of the months. -/
def monthNames : List String :=
  ["January", "February", "March", "April", "May", "June", "July", "August", "September", "October", "November",
    "December"]

/-- The names of the days of the week, from Monday. -/
def weekdayNames : List String :=
  ["Monday", "Tuesday", "Wednesday", "Thursday", "Friday", "Saturday", "Sunday"]

end EventRules.Calendar
