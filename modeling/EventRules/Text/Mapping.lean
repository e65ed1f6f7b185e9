import EventRules.Text.Packed

/-!
# Mappings of characters

Tables that send characters to texts. Most characters of a table move by a distance that they share with their
neighbours, so these are kept as runs; the others are listed with the characters that they become. Tables that
give characters a number keep ranges of one number together.
-/

namespace EventRules.Text

/-- Characters `first`, `first + step`, … that all move by `shift`. -/
structure ShiftRun where
  first : Nat
  count : Nat
  step : Nat
  shift : Int
  deriving Inhabited

/-- Where a run sends the code point `n`, if it holds it. -/
def ShiftRun.image? (run : ShiftRun) (n : Nat) : Option Nat :=
  let distance := n - run.first
  if run.first ≤ n ∧ distance % run.step = 0 ∧ distance / run.step < run.count then
    some ((n : Int) + run.shift).toNat
  else none

/-- Runs written as the distance of the first character, the count, the step, and the shift with its sign in the
lowest bit. -/
def shiftRunsOf (before : Nat) : List Nat → List ShiftRun
  | gap :: count :: step :: shift :: rest =>
    let shift := if shift % 2 = 0 then ((shift / 2 : Nat) : Int) else -(((shift + 1) / 2 : Nat) : Int)
    { first := before + gap, count, step, shift } :: shiftRunsOf (before + gap) rest
  | _ => []

/-- Expansions written as the distance of the character, how many characters it becomes, and those. -/
def expansionsOf (before : Nat) (ns : List Nat) : List (Nat × List Nat) :=
  match ns with
  | gap :: count :: rest => (before + gap, rest.take count) :: expansionsOf (before + gap) (rest.drop count)
  | _ => []
  termination_by ns.length
  decreasing_by simp; omega

/-- Ranges with a value, written as gap, span and value. -/
def valuedRangesOf (next : Nat) : List Nat → List (Nat × Nat × Nat)
  | gap :: span :: value :: rest =>
    (next + gap, next + gap + span, value) :: valuedRangesOf (next + gap + span + 1) rest
  | _ => []

/-- The value of the range that holds a code point. -/
def valueIn? (ranges : List (Nat × Nat × Nat)) (n : Nat) : Option Nat :=
  (ranges.find? fun r => r.1 ≤ n && n ≤ r.2.1).map (·.2.2)

/-- A table that sends some characters to texts. -/
structure Mapping where
  runs : List ShiftRun
  expansions : List (Nat × List Nat)

namespace Mapping

/-- The mapping written as packed runs and packed expansions. -/
def ofPacked (runs expansions : String) : Mapping :=
  ⟨shiftRunsOf 0 (unpack runs), expansionsOf 0 (unpack expansions)⟩

/-- The text that the table gives for a character. -/
def image? (m : Mapping) (c : Char) : Option (List Char) :=
  match m.expansions.lookup c.toNat with
  | some codes => some (codes.map Char.ofNat)
  | none => (m.runs.findSome? (·.image? c.toNat)).map fun n => [Char.ofNat n]

end Mapping

end EventRules.Text
