import EventRules.Decimal.Shortest

/-!
# Layouts of decimals

How the digits of a float are laid out: where positional notation ends, what an exponent looks like, and which of
two equally near decimals is taken. There are two layouts, one for the text of a value and one for JSON.
-/

namespace EventRules.Decimal

/-- The decisions of a layout. The number `d.ddd · 10 ^ e` is written positionally if
`minPositional ≤ e ≤ maxPositional`, and with an exponent otherwise. -/
structure Layout where
  minPositional : Int
  maxPositional : Int
  plusSign : Bool
  tie : Tie

/-- Values are written positionally from 0.0001 up to 10^16, exponents without a plus sign. -/
def Layout.value : Layout := ⟨-4, 15, false, .up⟩

/-- JSON numbers are written positionally from 0.00001 up to 10^16, exponents with a plus sign. -/
def Layout.json : Layout := ⟨-5, 15, true, .even⟩

/-- The decimal digits of a number, without trailing zeros unless it is zero. -/
def significantDigits (n : Nat) : List Char :=
  ((Nat.toDigits 10 n).reverse.dropWhile (· = '0')).reverse

/-- Digits with the decimal point after the first `point` of them; zeros fill up on either side and at least one
digit stands after the point. -/
def positional (digits : List Char) (point : Int) : List Char :=
  if point ≤ 0 then '0' :: '.' :: List.replicate (-point).toNat '0' ++ digits
  else
    let whole := point.toNat
    let missing := List.replicate (whole - digits.length) '0'
    let fraction := digits.drop whole
    digits.take whole ++ missing ++ '.' :: (if fraction.isEmpty then ['0'] else fraction)

/-- One digit before the point, the others after it, and the exponent. -/
def withExponent (plusSign : Bool) (digits : List Char) (exponent : Int) : List Char :=
  let fraction := digits.drop 1
  let sign := if exponent < 0 then ['-'] else if plusSign then ['+'] else []
  digits.take 1 ++ (if fraction.isEmpty then [] else '.' :: fraction) ++
    'e' :: sign ++ Nat.toDigits 10 exponent.natAbs

/-- The text of a positive or zero finite number. -/
def Layout.magnitude (layout : Layout) (mantissa : Nat) (exponent : Int) : List Char :=
  if mantissa = 0 then ['0', '.', '0']
  else
    let decimal := shortest layout.tie mantissa exponent
    let digits := significantDigits decimal.digits
    let leading := decimal.power + ((Nat.toDigits 10 decimal.digits).length : Int) - 1
    if layout.minPositional ≤ leading ∧ leading ≤ layout.maxPositional then positional digits (leading + 1)
    else withExponent layout.plusSign digits leading

/-- The text of a float; none for NaN and the infinities. -/
def Layout.finite? (layout : Layout) (x : Float) : Option String :=
  match FloatParts.ofFloat x with
  | .finite negative mantissa exponent =>
    let sign := if negative then ['-'] else []
    some (String.ofList (sign ++ layout.magnitude mantissa exponent))
  | _ => none

/-- The text of a float as a value shows it. -/
def floatText (x : Float) : String :=
  match FloatParts.ofFloat x with
  | .nan => "NaN"
  | .infinite negative => if negative then "-inf" else "inf"
  | _ => (Layout.value.finite? x).getD ""

end EventRules.Decimal
