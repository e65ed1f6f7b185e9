import EventRules.Calendar.Format
import EventRules.Calendar.Moment

/-!
# Writing dates

The text of a moment in a format. Times are universal, so the offset is always zero and the zone is `UTC`. An offset
that may be told in several ways can be read, but it has no text.
-/

namespace EventRules.Calendar

/-- A number filled up to a width. A sign stands before zeros and behind blanks, and counts as part of the width. -/
def padded (padding : Padding) (width : Nat) (plus : Bool) (n : Int) : List Char :=
  let digits := (Nat.toDigits 10 n.natAbs)
  let sign := if n < 0 then ['-'] else if plus then ['+'] else []
  let missing := width - (sign.length + digits.length)
  match padding with
  | .nothing => sign ++ digits
  | .zeros => sign ++ List.replicate missing '0' ++ digits
  | .blanks => List.replicate missing ' ' ++ sign ++ digits

/-- A number below 100 filled up to two digits. One that is not below 100, as the century of a far year may be, is
taken modulo 256 and its tens written as the character that many places after `0`. -/
def twoDigits (padding : Padding) (n : Int) : List Char :=
  let n := (n % 256).toNat
  let tens := match n / 10, padding with
    | 0, .nothing => []
    | 0, .blanks => [' ']
    | tens, _ => [Char.ofNat ('0'.toNat + tens)]
  tens ++ [Char.ofNat ('0'.toNat + n % 10)]

/-- A year: four digits, or a sign and at least four if it is negative or has more. -/
def yearText (padding : Padding) (year : Int) : List Char :=
  if 0 ≤ year && year < 10000 then
    padded (if 1000 ≤ year then .nothing else padding) 4 false year
  else padded padding 5 true year

/-- The text of a part that is a number. -/
def numberText (m : Moment) (padding : Padding) : NumberPart → List Char
  | .year => yearText padding m.date.year
  | .century => twoDigits padding (m.date.year / 100)
  | .yearOfCentury => twoDigits padding (m.date.year % 100)
  | .isoYear => yearText padding m.date.isoWeek.1
  | .isoYearOfCentury => twoDigits padding (m.date.isoWeek.1 % 100)
  | .quarter => padded .nothing 1 false m.date.quarter
  | .month => twoDigits padding m.date.month
  | .day => twoDigits padding m.date.day
  | .weekFromSunday => twoDigits padding (m.date.weekFrom .sunday)
  | .weekFromMonday => twoDigits padding (m.date.weekFrom .monday)
  | .isoWeek => twoDigits padding m.date.isoWeek.2
  | .weekdayFromSunday => padded .nothing 1 false (Weekday.after .sunday m.date.weekday)
  | .weekdayFromMonday => padded .nothing 1 false (m.date.weekday.number + 1)
  | .dayOfYear => padded padding 3 false m.date.ordinal
  | .hour => twoDigits padding m.hour
  | .hour12 => twoDigits padding m.hour12
  | .minute => twoDigits padding m.minute
  | .second => twoDigits padding m.secondOfMinute
  | .nanosecond => padded padding 9 false m.nanoOfSecond
  | .timestamp => padded padding 9 false m.timestamp

/-- The first digits of the nine digits of a fraction. -/
def fractionDigits (nano digits : Nat) : List Char :=
  padded .zeros digits false (nano / Nat.pow 10 (9 - digits) : Nat)

/-- A point and as many groups of three digits as a fraction needs, nothing if it is zero. -/
def shortFraction (nano : Nat) : List Char :=
  if nano = 0 then []
  else if nano % 1000000 = 0 then '.' :: fractionDigits nano 3
  else if nano % 1000 = 0 then '.' :: fractionDigits nano 6
  else '.' :: fractionDigits nano 9

/-- The characters of a name, or its first three. -/
def nameText (names : List String) (long : Bool) (i : Nat) : List Char :=
  let name := (names[i]?.getD "").toList
  if long then name else name.take 3

/-- The text of an item that has one. -/
def itemText? (m : Moment) : Item → Option (List Char)
  | .literal cs => some cs
  | .blank cs => some cs
  | .number part padding => some (numberText m padding part)
  | .monthName long => some (nameText monthNames long (m.date.month - 1))
  | .weekdayName long => some (nameText weekdayNames long m.date.weekday.number)
  | .dayHalf capital =>
    match m.isAfternoon, capital with
    | true, true => some ['P', 'M']
    | true, false => some ['p', 'm']
    | false, true => some ['A', 'M']
    | false, false => some ['a', 'm']
  | .fraction none _ => some (shortFraction m.nanoOfSecond)
  | .fraction (some digits) point => some ((if point then ['.'] else []) ++ fractionDigits m.nanoOfSecond digits)
  | .zoneName => some "UTC".toList
  | .offset .plain => some "+0000".toList
  | .offset .colon => some "+00:00".toList
  | .offset .seconds => some "+00:00:00".toList
  | .offset .hours => some "+00".toList
  | .offset .anyOf => none
  | .standard => some <|
    yearText .zeros m.date.year ++ ['-'] ++ twoDigits .zeros m.date.month ++ ['-'] ++ twoDigits .zeros m.date.day ++
      ['T'] ++ twoDigits .zeros m.hour ++ [':'] ++ twoDigits .zeros m.minute ++ [':'] ++
      twoDigits .zeros m.secondOfMinute ++ shortFraction m.nanoOfSecond ++ "+00:00".toList

/-- The text of a moment in a format, if all items have one. -/
def Moment.format? (m : Moment) (items : List Item) : Option String :=
  (items.mapM (itemText? m)).map fun texts => String.ofList texts.flatten

end EventRules.Calendar
