import EventRules.Decimal.Binary64

/-!
# Shortest decimals

The shortest decimal of a float has the fewest digits that still read back as the float and, of those, the digits
nearest to its value. A float stands for the interval of reals that round to it, ends included if its mantissa is
even. For 1, 2, … 17 digits the two decimals around the value are tried; the first length with a hit wins.
-/

namespace EventRules.Decimal

/-- Which of two equally near decimals is taken. -/
inductive Tie where
  | up
  | even
  deriving DecidableEq, Repr

/-- The number `digits · 10 ^ power`. -/
structure Scientific where
  digits : Nat
  power : Int
  deriving DecidableEq, Repr, Inhabited

/-- The reals that round to a float, in units of `2 ^ unit`: from `low` to `high` around `value`. -/
structure Interval where
  low : Nat
  value : Nat
  high : Nat
  unit : Int
  closed : Bool

/-- The interval of the float `mantissa · 2 ^ exponent`. It is narrower below a power of two, where the floats
lie twice as close. -/
def Interval.of (mantissa : Nat) (exponent : Int) : Interval where
  low := 4 * mantissa - (if mantissa = Nat.pow 2 52 ∧ exponent > FloatParts.minExponent then 1 else 2)
  value := 4 * mantissa
  high := 4 * mantissa + 2
  unit := exponent - 2
  closed := mantissa % 2 = 0

/-- `10 ^ power` in units of `2 ^ unit`, as a fraction. -/
def gridStep (power unit : Int) : Nat × Nat :=
  let num := (if power < 0 then 1 else Nat.pow 10 power.toNat) * (if unit < 0 then Nat.pow 2 (-unit).toNat else 1)
  let den := (if power < 0 then Nat.pow 10 (-power).toNat else 1) * (if unit < 0 then 1 else Nat.pow 2 unit.toNat)
  (num, den)

/-- Whether `count` steps of `num / den` lie in the interval. -/
def Interval.holds (i : Interval) (num den count : Nat) : Bool :=
  let point := count * num
  if i.closed then i.low * den ≤ point && point ≤ i.high * den
  else i.low * den < point && point < i.high * den

/-- The better of the two multiples of `10 ^ power` around the value, if one lies in the interval. -/
def Interval.nearestOn? (i : Interval) (tie : Tie) (power : Int) : Option Nat :=
  let (num, den) := gridStep power i.unit
  let below := i.value * den / num
  let rest := i.value * den % num
  match i.holds num den below, i.holds num den (below + 1) with
  | true, false => some below
  | false, true => some (below + 1)
  | false, false => none
  | true, true =>
    if 2 * rest < num then some below
    else if 2 * rest = num ∧ tie = .even ∧ below % 2 = 0 then some below
    else some (below + 1)

/-- Tries the lengths from `length` on; `point` is the place of the decimal point before the first digit. -/
def Interval.search (i : Interval) (tie : Tie) (point : Int) : (fuel length : Nat) → Scientific
  | 0, length => { digits := i.value, power := point - length }
  | fuel + 1, length =>
    match i.nearestOn? tie (point - length) with
    | some digits => { digits, power := point - length }
    | none => i.search tie point fuel (length + 1)

/-- The least `k` with `mantissa · 2 ^ exponent < 10 ^ k`, from an estimate by the binary logarithm that is at
most one off. -/
def decimalPoint (mantissa : Nat) (exponent : Int) : Int :=
  let estimate := ((mantissa.log2 : Int) + exponent) * 30103 / 100000
  let reaches (k : Int) : Bool :=
    let (num, den) := gridStep k exponent
    num ≤ mantissa * den
  if reaches (estimate + 1) then estimate + 2
  else if reaches estimate then estimate + 1
  else estimate

/-- The shortest decimal of the float `mantissa · 2 ^ exponent`, for a mantissa that is not zero. -/
def shortest (tie : Tie) (mantissa : Nat) (exponent : Int) : Scientific :=
  (Interval.of mantissa exponent).search tie (decimalPoint mantissa exponent) 17 1

end EventRules.Decimal
