/-!
# Floats as exact numbers

A finite float is `± mantissa · 2 ^ exponent`. This module takes floats apart, finds the float nearest to a ratio
of natural numbers, and defines from the parts what needs no rounding: truncation to an integer, the remainder of
a division, and the test for a whole number.
-/

namespace EventRules

/-- What a float stands for. -/
inductive FloatParts where
  | nan
  | infinite (negative : Bool)
  /-- The number `± mantissa · 2 ^ exponent`. -/
  | finite (negative : Bool) (mantissa : Nat) (exponent : Int)
  deriving DecidableEq, Repr

namespace FloatParts

/-- The least exponent of a float, that of the subnormal numbers. -/
def minExponent : Int := -1074

/-- The parts of a float, read off its bits. -/
def ofFloat (x : Float) : FloatParts :=
  let bits := x.toBits.toNat
  let negative := bits.testBit 63
  let field : Nat := bits / Nat.pow 2 52 % Nat.pow 2 11
  let fraction : Nat := bits % Nat.pow 2 52
  if field = 0x7FF then
    if fraction = 0 then infinite negative else nan
  else if field = 0 then finite negative fraction minExponent
  else finite negative (Nat.pow 2 52 + fraction) ((field : Int) - 1075)

/-- The float with the given sign and the given lower 63 bits. -/
def signed (negative : Bool) (bits : Nat) : Float :=
  Float.ofBits (UInt64.ofNat (if negative then Nat.pow 2 63 + bits else bits))

/-- The lower 63 bits of the infinities. -/
def infiniteBits : Nat := 0x7FF * Nat.pow 2 52

/-- The infinite float of a sign. -/
def infinity (negative : Bool) : Float :=
  signed negative infiniteBits

/-- The quotient rounded to the nearest integer, a half going to the even neighbour. -/
def roundHalfEven (num den : Nat) : Nat :=
  let quotient := num / den
  let rest := num % den
  if 2 * rest < den then quotient
  else if 2 * rest = den then quotient + quotient % 2
  else quotient + 1

/-- `num / den` as a fraction of natural numbers after scaling by `2 ^ -e`. -/
def scaled (num den : Nat) (e : Int) : Nat × Nat :=
  if e < 0 then (num * Nat.pow 2 (-e).toNat, den) else (num, den * Nat.pow 2 e.toNat)

/-- The float nearest to `± num / den`; ties go to the even mantissa and what is too large becomes infinite. -/
def nearest (negative : Bool) (num den : Nat) : Float :=
  if num = 0 then signed negative 0
  else
    let guess : Int := (num.log2 : Int) - (den.log2 : Int) - 52
    let (n, d) := scaled num den guess
    let e := max minExponent (if n < d * Nat.pow 2 52 then guess - 1 else guess)
    let (n, d) := scaled num den e
    let mantissa := roundHalfEven n d
    let field := (e - minExponent).toNat
    let bits := if mantissa < Nat.pow 2 52 then mantissa else (field + 1) * Nat.pow 2 52 + (mantissa - Nat.pow 2 52)
    signed negative (min bits infiniteBits)

/-- The float nearest to `± digits · 10 ^ power`. Powers far outside the range of floats are settled first, so
that no large power of ten is computed for them. -/
def ofDecimal (negative : Bool) (digits : Nat) (power : Int) : Float :=
  if digits = 0 then signed negative 0
  else
    let magnitude : Int := ((digits.log2 * 30103 / 100000 : Nat) : Int) + power
    if magnitude > 310 then infinity negative
    else if magnitude < -330 then signed negative 0
    else if power < 0 then nearest negative digits (Nat.pow 10 (-power).toNat)
    else nearest negative (digits * Nat.pow 10 power.toNat) 1

/-- The integer part of `mantissa · 2 ^ exponent`. -/
def wholePart (mantissa : Nat) (exponent : Int) : Nat :=
  if exponent < 0 then mantissa / Nat.pow 2 (-exponent).toNat else mantissa * Nat.pow 2 exponent.toNat

/-- The number without its fraction, toward zero; none for NaN and the infinities. -/
def truncate? : FloatParts → Option Int
  | finite negative mantissa exponent =>
    let whole : Int := wholePart mantissa exponent
    some (if negative then -whole else whole)
  | _ => none

/-- Whether the number is finite and has no fraction. -/
def isWhole : FloatParts → Bool
  | finite _ mantissa exponent => 0 ≤ exponent || mantissa % Nat.pow 2 (-exponent).toNat == 0
  | _ => false

/-- Whether the number is neither NaN nor infinite. -/
def isFinite : FloatParts → Bool
  | finite .. => true
  | _ => false

end FloatParts

namespace Decimal

/-- The remainder of the division that rounds toward zero: exact, with the sign of the dividend. -/
def remainder (x y : Float) : Float :=
  match FloatParts.ofFloat x, FloatParts.ofFloat y with
  | .finite negative m e, .finite _ n f =>
    if n = 0 then 0.0 / 0.0
    else
      let low := min e f
      let rest := (m * Nat.pow 2 (e - low).toNat) % (n * Nat.pow 2 (f - low).toNat)
      if low < 0 then FloatParts.nearest negative rest (Nat.pow 2 (-low).toNat)
      else FloatParts.nearest negative (rest * Nat.pow 2 low.toNat) 1
  | .finite .., .infinite _ => x
  | _, _ => 0.0 / 0.0

/-- The 64-bit integer nearest to the float toward zero; the ends of the range stand for what is outside it, and
NaN gives 0. -/
def toInt64 (x : Float) : Int64 :=
  match FloatParts.ofFloat x with
  | .nan => 0
  | .infinite negative => if negative then Int64.minValue else Int64.maxValue
  | parts => Int64.ofInt (max Int64.minValue.toInt (min Int64.maxValue.toInt (parts.truncate?.getD 0)))

end Decimal

end EventRules
