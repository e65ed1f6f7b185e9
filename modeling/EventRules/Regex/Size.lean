import EventRules.Regex.Basic

/-!
# Size of expressions

How much memory an expression takes as a program over the bytes of UTF-8, counted in advance, so that one whose
repetitions multiply beyond a limit is refused before it is built. A state takes 32 bytes, a way on from a state with
several 4, and a range of bytes 8.
-/

namespace EventRules.Regex

open Text

/-- The size of a state. -/
def stateSize : Nat := 32

/-- The ranges of bytes that write the code points from `low` to `high`, `count` digits of base 64 each, as sequences
of one range per digit. -/
def digitRanges : (count low high : Nat) → List (List (Nat × Nat))
  | 0, _, _ => [[]]
  | count + 1, low, high =>
    let base := Nat.pow 64 count
    let (a, b) := (low / base, high / base)
    if a = b then (digitRanges count (low % base) (high % base)).map ((a, a) :: ·)
    else
      let first := if low % base = 0 then [] else (digitRanges count (low % base) (base - 1)).map ((a, a) :: ·)
      let last := if high % base = base - 1 then [] else (digitRanges count 0 (high % base)).map ((b, b) :: ·)
      let start := if low % base = 0 then a else a + 1
      let stop := if high % base = base - 1 then b + 1 else b
      let middle := if start < stop then [(start, stop - 1) :: List.replicate count (0, 63)] else []
      first ++ middle ++ last

/-- The code points that are written with each number of bytes, without the surrogates. -/
def byteBlocks : List (Nat × Nat × Nat) :=
  [(1, 0, 0x7F), (2, 0x80, 0x7FF), (3, 0x800, 0xD7FF), (3, 0xE000, 0xFFFF), (4, 0x10000, 0x10FFFF)]

/-- The sequences of ranges of bytes that write a range of code points. Each has its number of bytes in front, so
that no two of different lengths start alike. -/
def byteRanges (range : Nat × Nat) : List (List (Nat × Nat)) :=
  byteBlocks.flatMap fun (count, first, last) =>
    let (low, high) := (max range.1 first, min range.2 last)
    if high < low then []
    else if count = 1 then [[(count, count), (low, high)]]
    else (digitRanges count low high).map ((count, count) :: ·)

/-- The length of what two lists have in common at the start. -/
def sharedLength : List (Nat × Nat) → List (Nat × Nat) → Nat
  | a :: as, b :: bs => if a = b then sharedLength as bs + 1 else 0
  | _, _ => 0

/-- How many states the sequences take if those that start alike share them; `before` is the one before. -/
def sequenceStates (before : List (Nat × Nat)) : List (List (Nat × Nat)) → Nat
  | [] => 0
  | s :: rest => s.length - max 1 (sharedLength before s) + sequenceStates s rest

/-- The size of a set of characters. -/
def setSize (set : CharSet) : Nat :=
  let ranges := set.ranges.toList
  match ranges with
  | [(low, high)] =>
    if low = high then stateSize * (String.singleton (Char.ofNat low)).utf8ByteSize
    else rangesSize ranges
  | _ => rangesSize ranges
where
  /-- The size of ranges of characters that are not a single one. -/
  rangesSize (ranges : List (Nat × Nat)) : Nat :=
    if ranges.all (·.2 < 128) then 2 * stateSize + 8 * ranges.length
    else
      let sequences := ranges.flatMap byteRanges
      stateSize * (sequenceStates [] sequences + 2) + 4 * sequences.length

/-- The size of an expression. -/
def Expr.size : Expr → Nat
  | .empty => stateSize
  | .chars set => setSize set
  | .look _ => stateSize
  | .group _ e => e.size + 2 * stateSize
  | .sequence a b => a.size + b.size
  | .either a b => a.size + b.size + 2 * stateSize + 8
  | .times e least (some most) _ =>
    least * e.size + stateSize + (most - least) * (e.size + stateSize + 8)
  | .times e least none _ =>
    max least 1 * e.size + stateSize + 8 + if e.mayBeEmpty then 2 * stateSize + 8 else 0

/-- The greatest size of an expression that is built. -/
def sizeLimit : Nat := 10 * Nat.pow 2 20

end EventRules.Regex
