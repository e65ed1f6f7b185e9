import EventRules.Text.CharClass

/-!
# Formats of dates

A format is a text in which specifiers, a percent sign and a letter, stand for parts of a date and time. Between the
two may stand how a number is padded. Some specifiers are short for several others.
-/

namespace EventRules.Calendar

open Text

/-- What fills a number up to its usual width. -/
inductive Padding
  | nothing
  | zeros
  | blanks
  deriving DecidableEq, Repr

/-- The parts of a date and time that are written as numbers. -/
inductive NumberPart
  | year
  | century
  | yearOfCentury
  | isoYear
  | isoYearOfCentury
  | quarter
  | month
  | day
  | weekFromSunday
  | weekFromMonday
  | isoWeek
  | weekdayFromSunday
  | weekdayFromMonday
  | dayOfYear
  | hour
  | hour12
  | minute
  | second
  | nanosecond
  | timestamp
  deriving DecidableEq, Repr

/-- How an offset from universal time is written: hours and minutes, with a colon between, with seconds too, the
hours alone, or in any of several ways. -/
inductive OffsetStyle
  | plain
  | colon
  | seconds
  | hours
  | anyOf
  deriving DecidableEq, Repr

/-- A part of a format. -/
inductive Item
  | literal (cs : List Char)
  | blank (cs : List Char)
  | number (part : NumberPart) (padding : Padding)
  | monthName (long : Bool)
  | weekdayName (long : Bool)
  | dayHalf (capital : Bool)
  | fraction (digits : Option Nat) (point : Bool)
  | zoneName
  | offset (style : OffsetStyle)
  | standard
  deriving DecidableEq, Repr

namespace Item

/-- A number that is filled up with zeros. -/
def zeros (part : NumberPart) : Item := .number part .zeros

/-- A number that is filled up with blanks. -/
def blanks (part : NumberPart) : Item := .number part .blanks

/-- A number by itself. -/
def bare (part : NumberPart) : Item := .number part .nothing

/-- A sign between numbers. -/
def sign (c : Char) : Item := .literal [c]

/-- Hours on a clock of 24 or 12 of them, minutes and seconds. -/
def clock (hours : NumberPart) : List Item :=
  [zeros hours, sign ':', zeros .minute, sign ':', zeros .second]

/-- Month, day and year of the century. -/
def shortDate : List Item :=
  [zeros .month, sign '/', zeros .day, sign '/', zeros .yearOfCentury]

/-- The items that a letter stands for. -/
def ofLetter? : Char → Option (List Item)
  | 'A' => some [.weekdayName true]
  | 'a' => some [.weekdayName false]
  | 'B' => some [.monthName true]
  | 'b' | 'h' => some [.monthName false]
  | 'C' => some [zeros .century]
  | 'c' => some ([.weekdayName false, .blank [' '], .monthName false, .blank [' '], blanks .day, .blank [' ']] ++
      clock .hour ++ [.blank [' '], zeros .year])
  | 'D' | 'x' => some shortDate
  | 'd' => some [zeros .day]
  | 'e' => some [blanks .day]
  | 'F' => some [zeros .year, sign '-', zeros .month, sign '-', zeros .day]
  | 'f' => some [zeros .nanosecond]
  | 'G' => some [zeros .isoYear]
  | 'g' => some [zeros .isoYearOfCentury]
  | 'H' => some [zeros .hour]
  | 'I' => some [zeros .hour12]
  | 'j' => some [zeros .dayOfYear]
  | 'k' => some [blanks .hour]
  | 'l' => some [blanks .hour12]
  | 'M' => some [zeros .minute]
  | 'm' => some [zeros .month]
  | 'n' => some [.blank ['\n']]
  | 'P' => some [.dayHalf false]
  | 'p' => some [.dayHalf true]
  | 'q' => some [bare .quarter]
  | 'R' => some [zeros .hour, sign ':', zeros .minute]
  | 'r' => some (clock .hour12 ++ [.blank [' '], .dayHalf true])
  | 'S' => some [zeros .second]
  | 's' => some [bare .timestamp]
  | 'T' | 'X' => some (clock .hour)
  | 't' => some [.blank ['\t']]
  | 'U' => some [zeros .weekFromSunday]
  | 'u' => some [bare .weekdayFromMonday]
  | 'V' => some [zeros .isoWeek]
  | 'v' => some [blanks .day, sign '-', .monthName false, sign '-', zeros .year]
  | 'W' => some [zeros .weekFromMonday]
  | 'w' => some [bare .weekdayFromSunday]
  | 'Y' => some [zeros .year]
  | 'y' => some [zeros .yearOfCentury]
  | 'Z' => some [.zoneName]
  | 'z' => some [.offset .plain]
  | '+' => some [.standard]
  | '%' => some [.literal ['%']]
  | _ => none

/-- The items of a specifier without a padding sign, and what follows it. -/
def plain? : List Char → Option (List Item × List Char)
  | '#' :: 'z' :: rest => some ([.offset .anyOf], rest)
  | ':' :: ':' :: ':' :: 'z' :: rest => some ([.offset .hours], rest)
  | ':' :: ':' :: 'z' :: rest => some ([.offset .seconds], rest)
  | ':' :: 'z' :: rest => some ([.offset .colon], rest)
  | '.' :: 'f' :: rest => some ([.fraction none true], rest)
  | '.' :: '3' :: 'f' :: rest => some ([.fraction (some 3) true], rest)
  | '.' :: '6' :: 'f' :: rest => some ([.fraction (some 6) true], rest)
  | '.' :: '9' :: 'f' :: rest => some ([.fraction (some 9) true], rest)
  | '3' :: 'f' :: rest => some ([.fraction (some 3) false], rest)
  | '6' :: 'f' :: rest => some ([.fraction (some 6) false], rest)
  | '9' :: 'f' :: rest => some ([.fraction (some 9) false], rest)
  | c :: rest => (ofLetter? c).map fun items => (items, rest)
  | [] => none

/-- The padding that a sign asks for. -/
def paddingOf? : Char → Option Padding
  | '-' => some .nothing
  | '0' => some .zeros
  | '_' => some .blanks
  | _ => none

/-- The items of a specifier, which follows its percent sign. Only a single number can be padded otherwise than it
usually is. -/
def specifier? : List Char → Option (List Item × List Char)
  | [] => none
  | c :: rest =>
    match paddingOf? c with
    | none => plain? (c :: rest)
    | some padding =>
      match plain? rest with
      | some ([.number part _], rest) => some ([.number part padding], rest)
      | _ => none

end Item

/-- The items of a format, if all its specifiers are known. Each takes at least one character, so a fuel of one more
than there are suffices. -/
def formatItems? : (fuel : Nat) → List Char → Option (List Item)
  | 0, _ => none
  | _ + 1, [] => some []
  | fuel + 1, '%' :: rest => do
    let (items, rest) ← Item.specifier? rest
    return items ++ (← formatItems? fuel rest)
  | fuel + 1, c :: rest => do
    let ofKind : Char → Bool := if isBlank c then isBlank else fun d => !isBlank d && d ≠ '%'
    let cs := (c :: rest).takeWhile ofKind
    let items ← formatItems? fuel ((c :: rest).dropWhile ofKind)
    return (if isBlank c then .blank cs else .literal cs) :: items

/-- The items of a format, if all its specifiers are known. -/
def format? (s : String) : Option (List Item) :=
  formatItems? (s.length + 1) s.toList

end EventRules.Calendar
