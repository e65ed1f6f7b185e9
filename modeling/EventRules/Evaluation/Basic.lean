import EventRules.Evaluation.Operators
import EventRules.Evaluation.Resolver
import EventRules.Expr.Basic
import EventRules.Function.Registry

/-!
# Evaluation

The value of an expression. A function is looked up and made ready before its arguments are evaluated from left to
right, and applied after them; `&&`, `||` and conditionals evaluate no more than they need; the first error or panic
ends the evaluation. How functions are looked up and applied is a parameter, so that the same evaluation can run on a
registry or be watched.
-/

namespace EventRules

/-- How functions are looked up and applied, on a state `σ` and with functions of a type `φ`. -/
structure Calls (σ φ : Type) where
  resolve : String → Evaluation σ φ
  apply : φ → List Value → Evaluation σ Value

/-- The calls of a registry. -/
def Registry.calls : Calls Registry Registration where
  resolve name := liftM (Registry.resolve name)
  apply := Registry.applyEntry

namespace Expr

variable {σ φ : Type}

mutual

/-- The value of an expression. -/
def evaluate (calls : Calls σ φ) (vars : Resolver) : Expr → Evaluation σ Value
  | .literal v => return v
  | .variable name => liftM (vars.lookup name)
  | .call name args => do
    let f ← calls.resolve name
    calls.apply f (← evaluateItems calls vars args)
  | .binary .and left right => do
    let a ← (← evaluate calls vars left).test "'&&'"
    if a then
      return .bool (← (← evaluate calls vars right).test "'&&'")
    else return .bool false
  | .binary .or left right => do
    let a ← (← evaluate calls vars left).test "'||'"
    if a then return .bool true
    else return .bool (← (← evaluate calls vars right).test "'||'")
  | .binary op left right => do
    let a ← evaluate calls vars left
    let b ← evaluate calls vars right
    op.eval a b
  | .unary .not operand => do
    return .bool !(← (← evaluate calls vars operand).test "'!'")
  | .unary .exists operand => do
    return .bool !(← evaluate calls vars operand).isNull
  | .unary .negate operand => do
    (← evaluate calls vars operand).negate
  | .ifThen condition consequence => do
    let c ← (← evaluate calls vars condition).test "conditional"
    if c then evaluate calls vars consequence else return .null
  | .ifElse condition consequence alternative => do
    let c ← (← evaluate calls vars condition).test "conditional"
    if c then evaluate calls vars consequence else evaluate calls vars alternative
  | .list items => return .list (← evaluateItems calls vars items)
  | .map entries => return .map (← evaluateEntries calls vars [] entries)

/-- The values of several expressions, from left to right. -/
def evaluateItems (calls : Calls σ φ) (vars : Resolver) : List Expr → Evaluation σ (List Value)
  | [] => return []
  | item :: rest => do
    let v ← evaluate calls vars item
    return v :: (← evaluateItems calls vars rest)

/-- The entries of a map literal, added to those already there; of a repeated key the last value counts. -/
def evaluateEntries (calls : Calls σ φ) (vars : Resolver) (done : Entries) :
    List (String × Expr) → Evaluation σ Entries
  | [] => return done
  | (key, value) :: rest => do
    let v ← evaluate calls vars value
    evaluateEntries calls vars (Keyed.insert done key v) rest

end

end Expr

end EventRules
