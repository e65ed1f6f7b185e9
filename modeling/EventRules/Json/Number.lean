import EventRules.Decimal.Reader
import EventRules.Json.Document

/-!
# JSON numbers

A number without fraction and exponent is an integer if it fits in 64 bits. Any other number keeps as many leading
digits as fit in 64 bits; they are rounded to a float, which is then scaled by powers of ten up to `10 ^ 308`, with
one rounding for each step.
-/

namespace EventRules.Json

/-- The parts of a number: the digits before the point, those after it, and the exponent, where written. -/
structure NumberText where
  negative : Bool
  whole : List Char
  fraction : Option (List Char)
  exponent : Option Int

/-- The integers below this bound fit in 64 bits without a sign. -/
def unsignedBound : Nat := Nat.pow 2 64

/-- Leading digits of a number and the power of ten that belongs to them; `full` says that a digit did not fit. -/
structure Leading where
  significand : Nat := 0
  power : Int := 0
  full : Bool := false

/-- Takes in a digit before the point. -/
def Leading.pushWhole (l : Leading) (c : Char) : Leading :=
  let next := 10 * l.significand + (c.toNat - '0'.toNat)
  if !l.full && next < unsignedBound then { l with significand := next }
  else { l with power := l.power + 1, full := true }

/-- Takes in a digit after the point. -/
def Leading.pushFraction (l : Leading) (c : Char) : Leading :=
  let next := 10 * l.significand + (c.toNat - '0'.toNat)
  if !l.full && next < unsignedBound then { l with significand := next, power := l.power - 1 }
  else { l with full := true }

/-- The float `x · 10 ^ power`, in steps of at most `10 ^ 308`; none if it is too large. -/
def scale? (x : Float) (power : Int) : (fuel : Nat) → Option Float
  | 0 => some x
  | fuel + 1 =>
    if x == 0 then some x
    else if power > 308 then none
    else if 0 ≤ power then
      let scaled := x * FloatParts.ofDecimal false 1 power
      if (FloatParts.ofFloat scaled).isFinite then some scaled else none
    else if -308 ≤ power then some (x / FloatParts.ofDecimal false 1 (-power))
    else scale? (x / FloatParts.ofDecimal false 1 308) (power + 308) fuel

/-- The float of a number; none if it is too large. -/
def NumberText.float? (t : NumberText) : Option Float :=
  let whole := t.whole.foldl Leading.pushWhole {}
  let all := (t.fraction.getD []).foldl Leading.pushFraction { whole with full := false }
  let x := FloatParts.nearest false all.significand 1
  (scale? x (all.power + t.exponent.getD 0) 4).map fun y => if t.negative then -y else y

/-- The document of a number; none if it is too large for a float. -/
def NumberText.document? (t : NumberText) : Option Document :=
  let n := Decimal.digitsValue t.whole
  let isInteger := t.fraction.isNone && t.exponent.isNone &&
    (if t.negative then 0 < n && n ≤ Nat.pow 2 63 else n < unsignedBound)
  if isInteger then some (.integer (if t.negative then -(n : Int) else n))
  else t.float?.map .float

end EventRules.Json
