import EventRules.Calendar.Moment

/-!
# Fields of dates

What a text tells about a date and time, field by field, and the date and time that the fields determine. A field
may be told more than once if it is told alike, and fields that are not needed to determine the date must agree with
it.
-/

namespace EventRules.Calendar

/-- What is told of a date and a time. -/
structure Fields where
  year : Option Int := none
  century : Option Int := none
  yearOfCentury : Option Int := none
  isoYear : Option Int := none
  isoYearOfCentury : Option Int := none
  quarter : Option Nat := none
  month : Option Nat := none
  weekFromSunday : Option Nat := none
  weekFromMonday : Option Nat := none
  isoWeek : Option Nat := none
  weekday : Option Weekday := none
  ordinal : Option Nat := none
  day : Option Nat := none
  isAfternoon : Option Bool := none
  hourOfHalf : Option Nat := none
  minute : Option Nat := none
  second : Option Nat := none
  nano : Option Nat := none
  timestamp : Option Int := none
  offset : Option Int := none
  deriving DecidableEq, Repr

/-- Why fields determine no date or time: too few of them, or some that no date has. -/
inductive Problem
  | tooFew
  | noneSuch
  deriving DecidableEq, Repr

/-- A field once a value is told for it, if it was not told otherwise. -/
def told? {α : Type} [DecidableEq α] (field : Option α) (value : α) : Option (Option α) :=
  match field with
  | none => some (some value)
  | some old => if old = value then some field else none

/-- Whether a field is not told or has a value. -/
def agrees {α : Type} [DecidableEq α] (field : Option α) (value : α) : Bool :=
  field.all (· = value)

/-- The year of a full year, a century and a year of the century, as far as they are told. Two digits alone are of
the years from 1970 to 2069; with a century or a full year the year is not negative. -/
def yearOf (year century yearOfCentury : Option Int) : Except Problem (Option Int) :=
  match year, century, yearOfCentury with
  | y, none, none => .ok y
  | some y, q, r =>
    if y < 0 then .error .noneSuch
    else if agrees q (y / 100) && agrees r (y % 100) then .ok (some y)
    else .error .noneSuch
  | none, some q, some r =>
    if 100 * q + r ≤ lastWrittenYear then .ok (some (100 * q + r)) else .error .noneSuch
  | none, none, some r => .ok (some (if r < 70 then 2000 + r else 1900 + r))
  | none, some _, none => .error .tooFew

namespace Fields

/-- Whether a century and a year of the century are those of a year, which is not negative if they are told. -/
def agreeCentury (century yearOfCentury : Option Int) (year : Int) : Bool :=
  if 0 ≤ year then agrees century (year / 100) && agrees yearOfCentury (year % 100)
  else century.isNone && yearOfCentury.isNone

/-- Whether the year, the month and the day agree with a date. -/
def agreeMonthDay (f : Fields) (d : Date) : Bool :=
  agrees f.year d.year && agreeCentury f.century f.yearOfCentury d.year && agrees f.month d.month &&
    agrees f.day d.day

/-- Whether the year and week of the ISO calendar and the weekday agree with a date. -/
def agreeIsoWeek (f : Fields) (d : Date) : Bool :=
  let (isoYear, isoWeek) := d.isoWeek
  agrees f.isoYear isoYear && agreeCentury none f.isoYearOfCentury isoYear && agrees f.isoWeek isoWeek &&
    agrees f.weekday d.weekday

/-- Whether the day and the weeks of the year agree with a date. -/
def agreeOrdinal (f : Fields) (d : Date) : Bool :=
  agrees f.ordinal d.ordinal && agrees f.weekFromSunday (d.weekFrom .sunday) &&
    agrees f.weekFromMonday (d.weekFrom .monday)

/-- A date with the fields that it was not made of. -/
def checked (f : Fields) (date? : Option Date) (agree : Date → Bool) : Except Problem Date :=
  match date? with
  | some d => if agree d && agrees f.quarter d.quarter then .ok d else .error .noneSuch
  | none => .error .noneSuch

/-- The date that the fields determine: by month and day, day of the year, week and weekday of the year, or those of
the ISO calendar, whichever of these is told first in this order. -/
def date (f : Fields) : Except Problem Date := do
  let year ← yearOf f.year f.century f.yearOfCentury
  let isoYear ← yearOf f.isoYear none f.isoYearOfCentury
  let agreeAll (d : Date) : Bool := f.agreeMonthDay d && f.agreeIsoWeek d && f.agreeOrdinal d
  let byIsoWeek : Except Problem Date :=
    match isoYear, f.isoWeek, f.weekday with
    | some y, some w, some wd =>
      f.checked (Date.ofIsoWeek? y w wd) fun d => f.agreeMonthDay d && f.agreeOrdinal d
    | _, _, _ => .error .tooFew
  match year with
  | none => byIsoWeek
  | some y =>
    match f.month, f.day, f.ordinal, f.weekFromSunday, f.weekFromMonday, f.weekday with
    | some m, some d, _, _, _, _ =>
      f.checked (Date.ofMonthDay? y m d) fun d => f.agreeIsoWeek d && f.agreeOrdinal d
    | _, _, some n, _, _, _ => f.checked (Date.ofOrdinal? y n) agreeAll
    | _, _, none, some w, _, some wd => f.checked (Date.ofWeek? y w .sunday wd) agreeAll
    | _, _, none, none, some w, some wd => f.checked (Date.ofWeek? y w .monday wd) agreeAll
    | _, _, _, _, _, _ => byIsoWeek

/-- The time that the fields determine: an hour and a minute are needed, and a second for a fraction of it. -/
def time (f : Fields) : Except Problem (Nat × Nat) :=
  match f.isAfternoon, f.hourOfHalf, f.minute with
  | some afternoon, some hour, some minute =>
    let start := 3600 * ((if afternoon then 12 else 0) + hour) + 60 * minute
    match f.second, f.nano with
    | none, some _ => .error .tooFew
    | none, none => .ok (start, 0)
    | some 60, nano => .ok (start + 59, nanosPerSecond + nano.getD 0)
    | some s, nano => .ok (start + s, nano.getD 0)
  | _, _, _ => .error .tooFew

/-- The hour of the day, told as half of the day and hour of the half. -/
def setHour? (f : Fields) (hour : Nat) : Option Fields := do
  if 24 ≤ hour then none
  let isAfternoon ← told? f.isAfternoon (decide (12 ≤ hour))
  let hourOfHalf ← told? f.hourOfHalf (hour % 12)
  return { f with isAfternoon, hourOfHalf }

/-- Tells the nanoseconds. -/
def setNano? (f : Fields) (nano : Nat) : Option Fields := do
  return { f with nano := ← told? f.nano nano }

/-- The fields with those of a moment told as well. A second 60 stays as it is. -/
def withMoment? (f : Fields) (m : Moment) : Option Fields := do
  let second ← if f.second = some 60 then some f.second else told? f.second m.secondOfMinute
  let year ← told? f.year m.date.year
  let ordinal ← told? f.ordinal m.date.ordinal
  let f ← { f with second, year, ordinal }.setHour? m.hour
  let minute ← told? f.minute m.minute
  return { f with minute }

/-- The moment of a timestamp, all other fields agreeing with it. A second 60 is the one before or after it. -/
def momentOfTimestamp? (f : Fields) (timestamp : Int) : Option Moment := do
  let m ← Moment.ofTimestamp? timestamp
  let m ←
    if f.second = some 60 then
      match m.secondOfMinute with
      | 59 => some m
      | 0 => Moment.ofTimestamp? (timestamp - 1)
      | _ => none
    else some m
  let f ← f.withMoment? m
  let date ← f.date.toOption
  let (second, nano) ← f.time.toOption
  return { date, second, nano }

/-- The date and time that the fields determine, by a timestamp if they are too few without. -/
def moment? (f : Fields) : Option Moment :=
  match f.date, f.time with
  | .ok date, .ok (second, nano) =>
    let m : Moment := { date, second, nano }
    let isLeap := nanosPerSecond ≤ nano
    if f.timestamp.all fun t => t = m.timestamp || (isLeap && t = m.timestamp + 1) then some m else none
  | .error .noneSuch, _ => none
  | _, .error .noneSuch => none
  | _, _ => f.timestamp.bind f.momentOfTimestamp?

end Fields

end EventRules.Calendar
