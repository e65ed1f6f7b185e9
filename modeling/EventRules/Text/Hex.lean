/-!
# Hexadecimal digits
-/

namespace EventRules.Text

/-- The value of a hexadecimal digit of either case. -/
def hexDigit? (c : Char) : Option Nat :=
  if c.isDigit then some (c.toNat - '0'.toNat)
  else if 'a' ≤ c ∧ c ≤ 'f' then some (c.toNat - 'a'.toNat + 10)
  else if 'A' ≤ c ∧ c ≤ 'F' then some (c.toNat - 'A'.toNat + 10)
  else none

/-- Whether `c` is a hexadecimal digit of either case. -/
def isHexDigit (c : Char) : Bool :=
  (hexDigit? c).isSome

/-- The number written by hexadecimal digits, if all of them are such. -/
def hexValue? (cs : List Char) : Option Nat :=
  (cs.mapM hexDigit?).map fun digits => digits.foldl (fun n d => 16 * n + d) 0

/-- The lowest hexadecimal digit of a number, small letters above 9. -/
def hexChar (n : Nat) : Char :=
  Nat.digitChar (n % 16)

/-- The hexadecimal digits of a number, small letters above 9. -/
def hexDigits (n : Nat) : List Char :=
  Nat.toDigits 16 n

/-- Whether a code point is a surrogate, which is no character. -/
def isSurrogate (code : Nat) : Bool :=
  0xD800 ≤ code && code < 0xE000

/-- The character of a code point, if it is one. -/
def charOfCode? (code : Nat) : Option Char :=
  if code ≤ 0x10FFFF && !isSurrogate code then some (Char.ofNat code) else none

end EventRules.Text
