import EventRules.Calendar.Date
import EventRules.Decimal.Reader
import EventRules.Settings.Setting
import EventRules.Text.Hex

/-!
# Numbers and dates in TOML

Integers are written in base 10, 16, 8 or 2 and fit in 64 bits; floats have a fraction or an exponent. An underscore
may stand between two digits. A date, a time or both together are kept as they are written.
-/

namespace EventRules.Toml

/-- Further digits of a number, each perhaps after an underscore, and the rest. -/
def moreDigits (isDigit : Char → Bool) : List Char → List Char × List Char
  | '_' :: c :: rest =>
    if isDigit c then
      let (more, after) := moreDigits isDigit rest
      (c :: more, after)
    else ([], '_' :: c :: rest)
  | c :: rest =>
    if isDigit c then
      let (more, after) := moreDigits isDigit rest
      (c :: more, after)
    else ([], c :: rest)
  | [] => ([], [])

/-- The digits of a number, at least one. -/
def digits? (isDigit : Char → Bool) : List Char → Option (List Char × List Char)
  | c :: rest =>
    if isDigit c then
      let (more, after) := moreDigits isDigit rest
      some (c :: more, after)
    else none
  | [] => none

/-- The digits before a point: a zero alone, or digits that do not start with zero. -/
def wholeDigits? : List Char → Option (List Char × List Char)
  | '0' :: rest => some (['0'], rest)
  | cs => digits? Char.isDigit cs

/-- The value of digits in a base up to 16. -/
def valueIn (base : Nat) (digits : List Char) : Nat :=
  digits.foldl (fun n c => base * n + (Text.hexDigit? c).getD 0) 0

/-- An integer of 64 bits as a setting. -/
def integer? (n : Int) : Option Setting :=
  (Decimal.int64Of? n).map fun n => .integer n.toInt

/-- An integer in a base other than 10, after the letter that tells the base. -/
def integerIn? (base : Nat) (cs : List Char) : Option (Setting × List Char) := do
  let isDigit (c : Char) : Bool := match Text.hexDigit? c with
    | some d => d < base
    | none => false
  let (digits, rest) ← digits? isDigit cs
  return (← integer? (valueIn base digits), rest)

/-- A point with its digits, if one comes next. -/
def fraction? : List Char → Option (Option (List Char) × List Char)
  | '.' :: rest => (digits? Char.isDigit rest).map fun (digits, rest) => (some digits, rest)
  | cs => some (none, cs)

/-- An exponent, if one comes next. -/
def exponent? : List Char → Option (Option Int × List Char)
  | [] => some (none, [])
  | c :: rest =>
    if c = 'e' ∨ c = 'E' then do
      let (negative, rest) := Decimal.splitSign rest
      let (digits, rest) ← digits? Char.isDigit rest
      let n : Int := Decimal.digitsValue digits
      return (some (if negative then -n else n), rest)
    else some (none, c :: rest)

/-- A number in base 10. A positive float may not be too large. -/
def decimal? (cs : List Char) : Option (Setting × List Char) := do
  let (negative, cs) := Decimal.splitSign cs
  let (whole, cs) ← wholeDigits? cs
  let (fraction, cs) ← fraction? cs
  let (exponent, cs) ← exponent? cs
  if fraction.isNone && exponent.isNone then
    let n : Int := Decimal.digitsValue whole
    return (← integer? (if negative then -n else n), cs)
  else
    let fraction := fraction.getD []
    let digits := Decimal.digitsValue (whole ++ fraction)
    let x := FloatParts.ofDecimal negative digits (exponent.getD 0 - fraction.length)
    if FloatParts.ofFloat x = .infinite false then none else return (.float x, cs)

/-- A number of any form. -/
def number? (cs : List Char) : Option (Setting × List Char) :=
  match cs with
  | '0' :: 'x' :: rest => integerIn? 16 rest
  | '0' :: 'o' :: rest => integerIn? 8 rest
  | '0' :: 'b' :: rest => integerIn? 2 rest
  | _ =>
    let (negative, rest) := Decimal.splitSign cs
    match rest with
    | 'i' :: 'n' :: 'f' :: rest => some (.float (FloatParts.infinity negative), rest)
    | 'n' :: 'a' :: 'n' :: rest => some (.float (0.0 / 0.0), rest)
    | _ => decimal? cs

/-! ## Dates and times -/

/-- A number of exactly `count` digits, from `low` to `high`. -/
def field? (count low high : Nat) (cs : List Char) : Option (Nat × List Char) :=
  let digits := cs.take count
  let n := Decimal.digitsValue digits
  if digits.length = count ∧ digits.all Char.isDigit ∧ low ≤ n ∧ n ≤ high then some (n, cs.drop count) else none

/-- The characters after the given one. -/
def after? (c : Char) : List Char → Option (List Char)
  | d :: rest => if c = d then some rest else none
  | [] => none

/-- The characters after a date. -/
def date? (cs : List Char) : Option (List Char) := do
  let (year, cs) ← field? 4 0 9999 cs
  let (month, cs) ← field? 2 1 12 (← after? '-' cs)
  let (_, cs) ← field? 2 1 (Calendar.daysInMonth year month) (← after? '-' cs)
  return cs

/-- The characters after a time of day. -/
def time? (cs : List Char) : Option (List Char) := do
  let (_, cs) ← field? 2 0 23 cs
  let (_, cs) ← field? 2 0 59 (← after? ':' cs)
  let (_, cs) ← field? 2 0 60 (← after? ':' cs)
  match cs with
  | '.' :: rest => if (rest.head?.map Char.isDigit).getD false then some (rest.dropWhile Char.isDigit) else none
  | cs => some cs

/-- The characters after the difference to universal time. -/
def offset? : List Char → Option (List Char)
  | [] => none
  | c :: rest =>
    if c = 'Z' ∨ c = 'z' then some rest
    else if c = '+' ∨ c = '-' then do
      let (_, cs) ← field? 2 0 23 rest
      let (_, cs) ← field? 2 0 59 (← after? ':' cs)
      return cs
    else none

/-- The characters after a time that may follow a date. -/
def timeOfDate? : List Char → Option (List Char)
  | [] => none
  | c :: rest =>
    if c = 'T' ∨ c = 't' ∨ c = ' ' then (time? rest).map fun cs => (offset? cs).getD cs
    else none

/-- The characters after a date, a time, or both. -/
def moment? (cs : List Char) : Option (List Char) :=
  match date? cs with
  | some rest => some ((timeOfDate? rest).getD rest)
  | none => time? cs

/-- A date, a time or both, as a text. -/
def momentText? (cs : List Char) : Option (Setting × List Char) :=
  (moment? cs).map fun rest => (.text (String.ofList (cs.take (cs.length - rest.length))), rest)

end EventRules.Toml
