import EventRules.Decimal.Binary64

/-!
# Reading numbers

The texts that are accepted as a 64-bit integer and as a float. An integer is an optional sign and digits; a float
may have a point, an exponent, or be one of the words for infinity and NaN in any case. Blanks are not skipped.
-/

namespace EventRules.Decimal

/-- The number written by decimal digits, most significant first. -/
def digitsValue (cs : List Char) : Nat :=
  cs.foldl (fun n c => 10 * n + (c.toNat - '0'.toNat)) 0

/-- A sign at the start, `true` for minus, and the rest. -/
def splitSign : List Char → Bool × List Char
  | '-' :: rest => (true, rest)
  | '+' :: rest => (false, rest)
  | cs => (false, cs)

/-- The integer as a 64-bit one, if it is in range. -/
def int64Of? (n : Int) : Option Int64 :=
  if Int64.minValue.toInt ≤ n ∧ n ≤ Int64.maxValue.toInt then some (Int64.ofInt n) else none

/-- An optional sign and at least one digit, within the range of 64 bits. -/
def readInt64? (cs : List Char) : Option Int64 :=
  let (negative, digits) := splitSign cs
  if digits.isEmpty || !digits.all Char.isDigit then none
  else
    let n : Int := digitsValue digits
    int64Of? (if negative then -n else n)

/-- An optional plus sign and at least one digit, below `bound`. -/
def readNatBelow? (bound : Nat) (cs : List Char) : Option Nat :=
  let digits := match cs with
    | '+' :: rest => rest
    | _ => cs
  if digits.isEmpty || !digits.all Char.isDigit then none
  else if digitsValue digits < bound then some (digitsValue digits) else none

/-- The exponent part `e±digits` of a number, or nothing. -/
def readExponent? : List Char → Option Int
  | [] => some 0
  | c :: rest =>
    let (negative, digits) := splitSign rest
    if (c = 'e' || c = 'E') && !digits.isEmpty && digits.all Char.isDigit then
      let n : Int := digitsValue digits
      some (if negative then -n else n)
    else none

/-- A float without its sign: digits with an optional point and an optional exponent. -/
def readMagnitude? (negative : Bool) (cs : List Char) : Option Float :=
  let (whole, rest) := cs.span Char.isDigit
  let (fraction, rest) := match rest with
    | '.' :: rest => rest.span Char.isDigit
    | _ => ([], rest)
  if whole.isEmpty && fraction.isEmpty then none
  else
    (readExponent? rest).map fun exponent =>
      FloatParts.ofDecimal negative (digitsValue (whole ++ fraction)) (exponent - fraction.length)

/-- A float: an optional sign, then a number or one of `inf`, `infinity` and `nan` in any case. -/
def readFloat? (cs : List Char) : Option Float :=
  let (negative, rest) := splitSign cs
  let word := String.ofList (rest.map Char.toLower)
  if word = "inf" ∨ word = "infinity" then some (FloatParts.infinity negative)
  else if word = "nan" then some (0.0 / 0.0)
  else readMagnitude? negative rest

end EventRules.Decimal
