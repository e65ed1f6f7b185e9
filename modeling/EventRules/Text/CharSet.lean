import EventRules.Text.Packed

/-!
# Sets of characters

A set of characters is an array of disjoint ranges of code points in increasing order. Membership is a binary
search; union sorts and merges, and the other operations come from union and complement.
-/

namespace EventRules.Text

/-- Disjoint ranges of code points (both ends included) in increasing order. -/
structure CharSet where
  ranges : Array (Nat × Nat) := #[]
  deriving Inhabited, BEq, Repr

namespace CharSet

/-- The greatest code point. -/
def maxCode : Nat := 0x10FFFF

/-- Whether `n` is in one of the ranges `lo … hi - 1`, by bisection with at most `fuel` halvings. -/
def search (ranges : Array (Nat × Nat)) (n : Nat) : (fuel lo hi : Nat) → Bool
  | 0, _, _ => false
  | fuel + 1, lo, hi =>
    if lo < hi then
      let mid := (lo + hi) / 2
      match ranges[mid]? with
      | none => false
      | some (first, last) =>
        if n < first then search ranges n fuel lo mid
        else if last < n then search ranges n fuel (mid + 1) hi
        else true
    else false

/-- Whether the code point `n` is in the set. -/
def containsCode (s : CharSet) (n : Nat) : Bool :=
  search s.ranges n (s.ranges.size + 1).log2.succ 0 s.ranges.size

/-- Whether `c` is in the set. -/
def contains (s : CharSet) (c : Char) : Bool :=
  s.containsCode c.toNat

/-- Merges ranges that overlap or touch; the ranges come in order of their starts. -/
def mergeRanges : List (Nat × Nat) → List (Nat × Nat)
  | [] => []
  | first :: rest => go first rest
where
  /-- Merges further ranges into the one that is still open. -/
  go (current : Nat × Nat) : List (Nat × Nat) → List (Nat × Nat)
    | [] => [current]
    | next :: rest =>
      if next.1 ≤ current.2 + 1 then go (current.1, max current.2 next.2) rest
      else current :: go next rest

/-- The set of all code points of some ranges, in whatever order they come. -/
def ofRanges (ranges : List (Nat × Nat)) : CharSet :=
  let sorted := (ranges.filter fun r => r.1 ≤ r.2).mergeSort fun a b => a.1 ≤ b.1
  ⟨(mergeRanges sorted).toArray⟩

/-- The set of the characters of a list. -/
def ofChars (cs : List Char) : CharSet :=
  ofRanges (cs.map fun c => (c.toNat, c.toNat))

/-- The set written as packed text. -/
def ofPacked (s : String) : CharSet :=
  ⟨(unpackRanges s).toArray⟩

/-- The code points from `first` to `last`. -/
def ofRange (first last : Nat) : CharSet :=
  if first ≤ last then ⟨#[(first, last)]⟩ else {}

/-- The set of one character. -/
def single (c : Char) : CharSet :=
  ⟨#[(c.toNat, c.toNat)]⟩

/-- No character. -/
def empty : CharSet := {}

/-- Every character. -/
def full : CharSet := ⟨#[(0, maxCode)]⟩

/-- Whether the set has no code point at all. -/
def isEmpty (s : CharSet) : Bool := s.ranges.isEmpty

/-- The characters of either set. -/
def union (s t : CharSet) : CharSet :=
  ofRanges (s.ranges.toList ++ t.ranges.toList)

/-- What lies between the ranges, from `next` upwards. -/
def gaps (next : Nat) : List (Nat × Nat) → List (Nat × Nat)
  | [] => if next ≤ maxCode then [(next, maxCode)] else []
  | (first, last) :: rest =>
    if next < first then (next, first - 1) :: gaps (last + 1) rest else gaps (last + 1) rest

/-- The characters outside the set. -/
def complement (s : CharSet) : CharSet :=
  ⟨(gaps 0 s.ranges.toList).toArray⟩

/-- The characters of both sets. -/
def inter (s t : CharSet) : CharSet :=
  (s.complement.union t.complement).complement

/-- The characters of the first set that are not in the second. -/
def diff (s t : CharSet) : CharSet :=
  s.inter t.complement

/-- The characters of exactly one of the sets. -/
def symmDiff (s t : CharSet) : CharSet :=
  (s.diff t).union (t.diff s)

end CharSet

end EventRules.Text
