import EventRules.Calendar.Date

/-!
# Moments

A moment is a date with a time of day to the nanosecond, in universal time. During a leap second the time stays at
second 59 and the nanoseconds pass a whole second.
-/

namespace EventRules.Calendar

/-- The number of nanoseconds in a second. -/
def nanosPerSecond : Nat := 1000000000

/-- The number of nanoseconds in a millisecond. -/
def nanosPerMilli : Nat := 1000000

/-- A date and a time: the second of the day and the nanoseconds since, less than two seconds of them. -/
structure Moment where
  date : Date
  second : Nat := 0
  nano : Nat := 0
  deriving DecidableEq, Repr

namespace Moment

def hour (m : Moment) : Nat := m.second / 3600
def minute (m : Moment) : Nat := m.second / 60 % 60

/-- The second of the minute, 60 during a leap second. -/
def secondOfMinute (m : Moment) : Nat :=
  m.second % 60 + m.nano / nanosPerSecond

/-- The hour on a clock of twelve hours. -/
def hour12 (m : Moment) : Nat :=
  if m.hour % 12 = 0 then 12 else m.hour % 12

/-- Whether the time is after noon. -/
def isAfternoon (m : Moment) : Bool :=
  12 ≤ m.hour

/-- The nanoseconds of the second. -/
def nanoOfSecond (m : Moment) : Nat :=
  m.nano % nanosPerSecond

/-- The number of seconds since the start of 1970. -/
def timestamp (m : Moment) : Int :=
  86400 * m.date.days + m.second

/-- The number of milliseconds since the start of 1970. -/
def millis (m : Moment) : Int :=
  1000 * m.timestamp + (m.nano / nanosPerMilli : Nat)

/-- The moment a number of seconds after the start of 1970, if its year is told. -/
def ofTimestamp? (seconds : Int) : Option Moment :=
  (Date.told? (.ofDays (seconds / 86400))).map fun date => { date, second := (seconds % 86400).toNat }

/-- The moment a number of milliseconds after the start of 1970, if its year is told. -/
def ofMillis? (millis : Int) : Option Moment :=
  (ofTimestamp? (millis / 1000)).map fun m => { m with nano := (millis % 1000).toNat * nanosPerMilli }

end Moment

end EventRules.Calendar
