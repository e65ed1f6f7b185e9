/-!
# Packed numbers

The tables of character properties are lists of numbers written as text. A number is a run of base-32 digits,
least digit first: `0`–`9` and `a`–`v` say that more digits follow, `A`–`Z`, `w`–`z`, `+` and `-` end the number.
-/

namespace EventRules.Text

/-- The value of a digit of packed text, with `true` if it ends its number. -/
def packedDigit (c : Char) : Nat × Bool :=
  if c.isDigit then (c.toNat - '0'.toNat, false)
  else if 'a' ≤ c ∧ c ≤ 'v' then (c.toNat - 'a'.toNat + 10, false)
  else if c.isUpper then (c.toNat - 'A'.toNat, true)
  else if 'w' ≤ c ∧ c ≤ 'z' then (c.toNat - 'w'.toNat + 26, true)
  else if c = '+' then (30, true)
  else (31, true)

/-- A partly read packed text: the finished numbers, last first, and the number being read with the weight of
its next digit. -/
structure Unpacking where
  done : List Nat := []
  value : Nat := 0
  weight : Nat := 1

/-- Takes in one more digit. -/
def Unpacking.push (u : Unpacking) (c : Char) : Unpacking :=
  match packedDigit c with
  | (d, true) => { done := (u.value + u.weight * d) :: u.done }
  | (d, false) => { u with value := u.value + u.weight * d, weight := u.weight * 32 }

/-- The numbers of a packed text. -/
def unpack (s : String) : List Nat :=
  (s.toList.foldl Unpacking.push {}).done.reverse

/-- Ranges written as alternating gaps and spans: a range starts its gap above the end of the one before it
and holds one more code point than its span says. -/
def rangesOf (next : Nat) : List Nat → List (Nat × Nat)
  | gap :: span :: rest => (next + gap, next + gap + span) :: rangesOf (next + gap + span + 1) rest
  | _ => []

/-- The ranges of a packed text. -/
def unpackRanges (s : String) : List (Nat × Nat) :=
  rangesOf 0 (unpack s)

end EventRules.Text
