import EventRules.Value.Basic

/-!
# Equality and order of values

Strict equality tells integers from floats. Loose equality, that of `==` and `in`, widens numbers. The order of `<`
exists between numbers, between texts and between booleans only; a float that is no number has no place in it.
-/

namespace EventRules.Value

mutual

/-- Equality by type and content; floats are equal as numbers, so NaN differs from itself. -/
def strictEq : Value → Value → Bool
  | .null, .null => true
  | .bool a, .bool b => a == b
  | .int a, .int b => a == b
  | .float a, .float b => a == b
  | .string a, .string b => a == b
  | .list a, .list b => strictEqItems a b
  | .map a, .map b => strictEqEntries a b
  | _, _ => false

/-- Equality of lists, item by item. -/
def strictEqItems : List Value → List Value → Bool
  | [], [] => true
  | a :: as, b :: bs => strictEq a b && strictEqItems as bs
  | _, _ => false

/-- Equality of maps, entry by entry. -/
def strictEqEntries : Entries → Entries → Bool
  | [], [] => true
  | (k, a) :: as, (l, b) :: bs => k == l && strictEq a b && strictEqEntries as bs
  | _, _ => false

end

mutual

/-- Equality with numbers compared by value, whatever their types, also inside lists and maps. -/
def looseEq : Value → Value → Bool
  | .null, .null => true
  | .bool a, .bool b => a == b
  | .int a, .int b => a == b
  | .int a, .float b => a.toFloat == b
  | .float a, .int b => a == b.toFloat
  | .float a, .float b => a == b
  | .string a, .string b => a == b
  | .list a, .list b => looseEqItems a b
  | .map a, .map b => looseEqEntries a b
  | _, _ => false

/-- Loose equality of lists, item by item. -/
def looseEqItems : List Value → List Value → Bool
  | [], [] => true
  | a :: as, b :: bs => looseEq a b && looseEqItems as bs
  | _, _ => false

/-- Loose equality of maps, entry by entry. -/
def looseEqEntries : Entries → Entries → Bool
  | [], [] => true
  | (k, a) :: as, (l, b) :: bs => k == l && looseEq a b && looseEqEntries as bs
  | _, _ => false

end

/-- The order of two floats; none if one of them is NaN. -/
def compareFloats? (a b : Float) : Option Ordering :=
  if a < b then some .lt
  else if a == b then some .eq
  else if b < a then some .gt
  else none

/-- The order of two values; none where the types do not compare or a number is NaN. -/
def compare? : Value → Value → Option Ordering
  | .int a, .int b => some (compare a.toInt b.toInt)
  | .int a, .float b => compareFloats? a.toFloat b
  | .float a, .int b => compareFloats? a b.toFloat
  | .float a, .float b => compareFloats? a b
  | .string a, .string b => some (if a < b then .lt else if a = b then .eq else .gt)
  | .bool a, .bool b => some (compare a.toNat b.toNat)
  | _, _ => none

end EventRules.Value
