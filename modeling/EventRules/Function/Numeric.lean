import EventRules.Evaluation.Operators
import EventRules.Function.Arguments

/-!
# Functions on numbers
-/

namespace EventRules.NumericFunctions

open Arguments

/-- The magnitude of a number. -/
def abs (args : List Value) : Except Error Value := do
  checkArity "ABS" args 1 (some 1)
  match get args 0 with
  | .null => return .null
  | .int n => exactInt n.toInt.natAbs (.absOverflow n.toInt)
  | .float x => return .float x.abs
  | v => mismatch "ABS" 0 "number" v

/-- The better of the best value so far and a further one. -/
def better (function : String) (wanted : Ordering) (best value : Value) : Except Error Value :=
  match value.compare? best with
  | some order => .ok (if order = wanted then value else best)
  | none => .error (.type (.incomparable function value.typeName best.typeName))

/-- What a single list or several values offer for comparison. -/
def candidates : List Value → List Value
  | [.list items] => items
  | args => args

/-- The value that stands in the wanted order to all others, null values left out. -/
def extreme (function : String) (wanted : Ordering) (args : List Value) : Except Error Value := do
  checkArity function args 1 none
  match (candidates args).filter (!·.isNull) with
  | [] => return .null
  | first :: rest => rest.foldlM (better function wanted) first

def catalog : List Builtin := [
  .ofArgs "ABS" "Returns the absolute value of a number"
    ["number - The number"] "The absolute value, or null for a null input" abs,
  .ofArgs "MAX" "Returns the maximum of a list of values, or of the arguments"
    ["values - A list, or two or more comparable values"] "The largest non-null value" (extreme "MAX" .gt),
  .ofArgs "MIN" "Returns the minimum of a list of values, or of the arguments"
    ["values - A list, or two or more comparable values"] "The smallest non-null value" (extreme "MIN" .lt)]

end EventRules.NumericFunctions
