import EventRules.Text.Hex

/-!
# Punycode

Texts of any characters written with letters, digits and hyphens. The ASCII characters come first, then a hyphen
if there are any, then the other characters in order of their code points, each as the distance from the one before
on a walk over all pairs of a code point and a place in the text. A distance is a number of mixed base 36 whose
digits weigh less where small distances are expected (`bias`).
-/

namespace EventRules.Network.Punycode

/-- The digit that ends a number where it is below this bound. -/
def threshold (k bias : Nat) : Nat :=
  max 1 (min 26 (k - bias))

/-- How often a distance is divided until it is small, as 36 for each time, with what is left of it. -/
def damp (k delta : Nat) : Nat × Nat :=
  if 455 < delta then damp (k + 36) (delta / 35) else (k, delta)
  termination_by delta

/-- The bias after a distance, `count` being the number of characters with the new one. -/
def adapt (delta count : Nat) (first : Bool) : Nat :=
  let delta := if first then delta / 700 else delta / 2
  let (k, delta) := damp 0 (delta + delta / count)
  k + 36 * delta / (delta + 38)

/-! ## Decoding -/

/-- The value of a digit: letters of either case are 0 to 25 and digits 26 to 35. -/
def digit? (c : Char) : Option Nat :=
  if 'a' ≤ c ∧ c ≤ 'z' then some (c.toNat - 'a'.toNat)
  else if 'A' ≤ c ∧ c ≤ 'Z' then some (c.toNat - 'A'.toNat)
  else if c.isDigit then some (c.toNat - '0'.toNat + 26)
  else none

/-- A partly decoded text: the characters so far, the last code point that was put in, the place where the walk
stands, and the distance being read with the weight and the number of its next digit. -/
structure Decoding where
  text : List Nat
  code : Nat := 128
  place : Nat := 0
  distance : Nat := 0
  bias : Nat := 72
  weight : Nat := 1
  k : Nat := 36

/-- Takes in one digit; one below the threshold ends the distance, and the next character is put in. -/
def Decoding.push (s : Decoding) (d : Nat) : Decoding :=
  let t := threshold s.k s.bias
  let distance := s.distance + d * s.weight
  if d < t then
    let count := s.text.length + 1
    let walked := s.place + distance
    let code := s.code + walked / count
    let place := walked % count
    { text := s.text.take place ++ code :: s.text.drop place
      code, place := place + 1
      bias := adapt distance count (s.place = 0) }
  else { s with distance, weight := s.weight * (36 - t), k := s.k + 36 }

/-- What stands before the last hyphen and after it; without a hyphen, or with one in front of all, nothing and
the whole. -/
def splitBasic (cs : List Char) : List Char × List Char :=
  let tail := (cs.reverse.takeWhile (· != '-')).reverse
  if tail.length + 1 < cs.length then (cs.take (cs.length - tail.length - 1), tail) else ([], cs)

/-- The text that an ASCII text encodes. -/
def decode? (cs : List Char) : Option (List Char) := do
  let (basic, rest) := splitBasic cs
  let digits ← rest.mapM digit?
  let s := digits.foldl Decoding.push { text := basic.map Char.toNat }
  if s.k = 36 then s.text.mapM Text.charOfCode? else none

/-! ## Encoding -/

/-- The character of a digit, letters small. -/
def digitChar (d : Nat) : Char :=
  if d < 26 then Char.ofNat ('a'.toNat + d) else Char.ofNat ('0'.toNat + d - 26)

/-- The digits of a distance from digit `k` on. -/
def distanceDigits (bias k distance : Nat) : List Nat :=
  let t := threshold k bias
  if distance < t then [distance]
  else (t + (distance - t) % (36 - t)) :: distanceDigits bias (k + 36) ((distance - t) / (36 - t))
  termination_by distance
  decreasing_by
    have lower : 1 ≤ threshold k bias := Nat.le_max_left _ _
    have le := Nat.div_le_self (distance - threshold k bias) (36 - threshold k bias)
    omega

/-- A partly encoded text: how many of its characters are written, the way walked since the last of them, and the
digits so far, last first. -/
structure Encoding where
  written : Nat
  distance : Nat := 0
  bias : Nat := 72
  digits : List Nat := []

/-- Walks past one character of the text while `code` is the code point being written. -/
def Encoding.pass (basic code : Nat) (s : Encoding) (c : Nat) : Encoding :=
  if c < code then { s with distance := s.distance + 1 }
  else if c = code then
    { written := s.written + 1
      bias := adapt s.distance (s.written + 1) (s.written = basic)
      digits := (distanceDigits s.bias 36 s.distance).reverse ++ s.digits }
  else s

/-- Writes every character with a code point of the list; `least` is the lowest code point not walked yet. -/
def encodeFrom (text : List Nat) (basic : Nat) (s : Encoding) (least : Nat) : (codes : List Nat) → Encoding
  | [] => s
  | code :: codes =>
    let s := { s with distance := s.distance + (code - least) * (s.written + 1) }
    let s := text.foldl (Encoding.pass basic code) s
    encodeFrom text basic { s with distance := s.distance + 1 } (code + 1) codes

/-- The ASCII text that encodes a text. -/
def encode (cs : List Char) : List Char :=
  let text := cs.map Char.toNat
  let basic := cs.filter (·.toNat < 128)
  let codes := ((text.filter (128 ≤ ·)).mergeSort (· ≤ ·)).eraseDups
  let s := encodeFrom text basic.length { written := basic.length } 128 codes
  basic ++ (if basic.isEmpty then [] else ['-']) ++ s.digits.reverse.map digitChar

end EventRules.Network.Punycode
