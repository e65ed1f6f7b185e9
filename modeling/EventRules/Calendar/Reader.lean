import EventRules.Calendar.Fields
import EventRules.Calendar.Format
import EventRules.Decimal.Reader

/-!
# Reading dates

Takes the fields of a date and time from a text by a format. Blanks in the format stand for any number of blanks,
also none, and blanks before a number are skipped. Names may be in any case. The whole text has to be used up.
-/

namespace EventRules.Calendar

open Text

/-- Fields told so far and the text that is left. -/
structure Reading where
  fields : Fields := {}
  rest : List Char

/-- The text without blanks at the start. -/
def skipBlanks (cs : List Char) : List Char :=
  cs.dropWhile isBlank

/-- A number of at most `most` digits, if that is bounded, below 2^63. -/
def readNumber? (most : Option Nat) (cs : List Char) : Option (Nat × List Char) :=
  let digits := cs.takeWhile Char.isDigit
  let digits := match most with
    | some n => digits.take n
    | none => digits
  let n := Decimal.digitsValue digits
  if digits.isEmpty || Nat.pow 2 63 ≤ n then none else some (n, cs.drop digits.length)

/-- A number of at most `most` digits, or a sign and a number of any length. -/
def readSigned? (most : Nat) (cs : List Char) : Option (Int × List Char) :=
  match cs with
  | '-' :: rest => (readNumber? none rest).map fun (n, rest) => (-(n : Int), rest)
  | '+' :: rest => (readNumber? none rest).map fun (n, rest) => ((n : Int), rest)
  | _ => (readNumber? (some most) cs).map fun (n, rest) => ((n : Int), rest)

/-- The index of the name that the text starts with in any case, and what follows it. The first three letters of a
name suffice; where `long` the others are taken too if they follow. -/
def readName? (names : List String) (long : Bool) (cs : List Char) : Option (Nat × List Char) :=
  let small (cs : List Char) : List Char := cs.map Char.toLower
  match names.findIdx? fun name => small (name.toList.take 3) == small (cs.take 3) with
  | none => none
  | some i =>
    let ending := small ((names[i]?.getD "").toList.drop 3)
    let rest := cs.drop 3
    some (i, if long && ending == small (rest.take ending.length) then rest.drop ending.length else rest)

/-- A fraction of a second as nanoseconds: the first nine digits count, further ones are passed. -/
def readFraction? (cs : List Char) : Option (Nat × List Char) :=
  let digits := cs.takeWhile Char.isDigit
  let counted := digits.take 9
  if digits.isEmpty then none
  else some (Decimal.digitsValue counted * Nat.pow 10 (9 - counted.length), cs.drop digits.length)

/-- A fraction of a second of exactly so many digits as nanoseconds. -/
def readFixedFraction? (count : Nat) (cs : List Char) : Option (Nat × List Char) :=
  let digits := (cs.takeWhile Char.isDigit).take count
  if digits.length < count then none
  else some (Decimal.digitsValue digits * Nat.pow 10 (9 - count), cs.drop count)

/-- Two digits. -/
def readPair? : List Char → Option (Nat × List Char)
  | a :: b :: rest => if a.isDigit && b.isDigit then some (Decimal.digitsValue [a, b], rest) else none
  | _ => none

/-- An offset from universal time in seconds: a sign, two digits for hours and two for minutes, with colons and
blanks between. Where `lax`, minutes may be left out and `Z` stands for no offset. -/
def readOffset? (zulu lax : Bool) (cs : List Char) : Option (Int × List Char) :=
  let signed (negative : Bool) (cs : List Char) : Option (Int × List Char) := do
    let (hours, cs) ← readPair? cs
    let cs := cs.dropWhile fun c => c = ':' || isBlank c
    let (minutes, cs) ← if lax && cs.isEmpty then some (0, cs) else readPair? cs
    if 60 ≤ minutes then none
    let seconds : Int := 3600 * hours + 60 * minutes
    return (if negative then -seconds else seconds, cs)
  match cs with
  | [] => none
  | c :: rest =>
    if zulu && (c = 'Z' || c = 'z') then some (0, rest)
    else if c = '+' then signed false rest
    else if c = '-' || c = Char.ofNat 0x2212 then signed true rest
    else none

/-- A value within bounds. -/
def within? (low high : Int) (n : Int) : Option Nat :=
  if low ≤ n && n ≤ high then some n.toNat else none

namespace Fields

/-- Tells a part that is a number. -/
def setNumber? (f : Fields) (n : Int) : NumberPart → Option Fields
  | .year => do
    if n < -lastWrittenYear - 1 || lastWrittenYear < n then none
    return { f with year := ← told? f.year n }
  | .century => do return { f with century := ← told? f.century n }
  | .yearOfCentury => do return { f with yearOfCentury := ← told? f.yearOfCentury n }
  | .isoYear => do
    if n < -lastWrittenYear - 1 || lastWrittenYear < n then none
    return { f with isoYear := ← told? f.isoYear n }
  | .isoYearOfCentury => do return { f with isoYearOfCentury := ← told? f.isoYearOfCentury n }
  | .quarter => do return { f with quarter := ← told? f.quarter (← within? 1 4 n) }
  | .month => do return { f with month := ← told? f.month (← within? 1 12 n) }
  | .day => do return { f with day := ← told? f.day (← within? 1 31 n) }
  | .weekFromSunday => do return { f with weekFromSunday := ← told? f.weekFromSunday (← within? 0 53 n) }
  | .weekFromMonday => do return { f with weekFromMonday := ← told? f.weekFromMonday (← within? 0 53 n) }
  | .isoWeek => do return { f with isoWeek := ← told? f.isoWeek (← within? 1 53 n) }
  | .weekdayFromSunday => do
    return { f with weekday := ← told? f.weekday (.ofNumber ((← within? 0 6 n) + 6)) }
  | .weekdayFromMonday => do
    return { f with weekday := ← told? f.weekday (.ofNumber ((← within? 1 7 n) - 1)) }
  | .dayOfYear => do return { f with ordinal := ← told? f.ordinal (← within? 1 366 n) }
  | .hour => do f.setHour? (← within? 0 23 n)
  | .hour12 => do return { f with hourOfHalf := ← told? f.hourOfHalf ((← within? 1 12 n) % 12) }
  | .minute => do return { f with minute := ← told? f.minute (← within? 0 59 n) }
  | .second => do return { f with second := ← told? f.second (← within? 0 60 n) }
  | .nanosecond => f.setNano? n.toNat
  | .timestamp => do return { f with timestamp := ← told? f.timestamp n }

end Fields

/-- How many digits a part may have without a sign; a timestamp may have any number. -/
def NumberPart.width? : NumberPart → Option Nat
  | .year | .isoYear => some 4
  | .quarter | .weekdayFromSunday | .weekdayFromMonday => some 1
  | .dayOfYear => some 3
  | .nanosecond => some 9
  | .timestamp => none
  | _ => some 2

/-- Reads a part that is a number. -/
def readPart? (r : Reading) (part : NumberPart) : Option Reading := do
  let cs := skipBlanks r.rest
  let (n, rest) ← match part with
    | .year | .isoYear => readSigned? 4 cs
    | _ => (readNumber? part.width? cs).map fun (n, rest) => ((n : Int), rest)
  return { fields := ← r.fields.setNumber? n part, rest }

/-- Reads a fraction of a second. -/
def readFractionItem? (r : Reading) (digits : Option Nat) (point : Bool) : Option Reading := do
  let read (cs : List Char) : Option (Nat × List Char) :=
    match digits with
    | none => readFraction? cs
    | some n => readFixedFraction? n cs
  let set? (cs : List Char) : Option Reading := do
    let (nano, rest) ← read cs
    return { fields := ← r.fields.setNano? nano, rest }
  if !point then set? r.rest
  else match r.rest with
    | '.' :: rest => set? rest
    | _ => return r

/-- Tells an offset, read by a reader. -/
def readOffsetItem? (r : Reading) (offset? : Option (Int × List Char)) : Option Reading := do
  let (offset, rest) ← offset?
  return { fields := { r.fields with offset := ← told? r.fields.offset offset }, rest }

/-- Reads a text that has to come next. -/
def readLiteral? (r : Reading) (cs : List Char) : Option Reading :=
  if cs.isPrefixOf r.rest then some { r with rest := r.rest.drop cs.length } else none

/-- Reads parts that are numbers, with blanks and a sign in front of all but the first. -/
def readParts? (r : Reading) (sign : Char) : List NumberPart → Option Reading
  | [] => some r
  | [part] => readPart? r part
  | part :: rest => do
    let r ← readPart? r part
    let r ← readLiteral? { r with rest := skipBlanks r.rest } [sign]
    readParts? r sign rest

/-- Reads a date and time in the standard form: date, `T` or a blank, time with an optional fraction, and an offset,
`Z` or `UTC`. -/
def readStandard? (r : Reading) : Option Reading := do
  let r ← readParts? r '-' [.year, .month, .day]
  let r ← match r.rest with
    | c :: rest => if "tT ".toList.contains c then some { r with rest } else none
    | [] => none
  let r ← readParts? r ':' [.hour, .minute, .second]
  let r ← readFractionItem? r none true
  let cs := skipBlanks r.rest
  if (cs.take 3).map Char.toUpper = "UTC".toList then readOffsetItem? r (some (0, cs.drop 3))
  else readOffsetItem? r (readOffset? true false cs)

/-- Reads one item. -/
def readItem? (r : Reading) : Item → Option Reading
  | .literal cs => readLiteral? r cs
  | .blank _ => some { r with rest := skipBlanks r.rest }
  | .number part _ => readPart? r part
  | .monthName long => do
    let (i, rest) ← readName? monthNames long r.rest
    return { fields := { r.fields with month := ← told? r.fields.month (i + 1) }, rest }
  | .weekdayName long => do
    let (i, rest) ← readName? weekdayNames long r.rest
    return { fields := { r.fields with weekday := ← told? r.fields.weekday (.ofNumber i) }, rest }
  | .dayHalf _ => do
    let isAfternoon ← match (r.rest.take 2).map Char.toLower with
      | ['a', 'm'] => some false
      | ['p', 'm'] => some true
      | _ => none
    return { fields := { r.fields with isAfternoon := ← told? r.fields.isAfternoon isAfternoon }
             rest := r.rest.drop 2 }
  | .fraction digits point => readFractionItem? r digits point
  | .zoneName => some { r with rest := r.rest.dropWhile (!isBlank ·) }
  | .offset .anyOf => readOffsetItem? r (readOffset? true true (skipBlanks r.rest))
  | .offset _ => readOffsetItem? r (readOffset? false false (skipBlanks r.rest))
  | .standard => readStandard? r

/-- The fields that a whole text tells by the items of a format. -/
def Fields.ofText? (items : List Item) (s : String) : Option Fields := do
  let r ← items.foldlM readItem? { rest := s.toList }
  if r.rest.isEmpty then some r.fields else none

/-- The moment that a text tells. A text that tells no time but a date means the start of the day. -/
def Moment.ofText? (items : List Item) (s : String) : Option Moment := do
  let fields ← Fields.ofText? items s
  fields.moment?.orElse fun _ => fields.date.toOption.map fun date => { date }

end EventRules.Calendar
