import EventRules.Evaluation.Operators
import EventRules.Proofs.Run

/-!
# Results of the operators

An operator has a scalar as its value, or fails because of the types of its operands or because there
is no value. A property of values that is `Value.Closed` survives whatever evaluation makes of values.
-/

namespace EventRules

/-- Whether the value is neither a list nor a map. -/
def Value.isScalar : Value → Bool
  | .list _ | .map _ => false
  | _ => true

/-- Whether an operator can fail with the error. -/
def Error.isFault : Error → Bool
  | .type _ | .evaluation _ => true
  | _ => false

/-- Scalars have the property, and lists and maps have it if what is in them does. -/
structure Value.Closed (V : Value → Prop) : Prop where
  scalar : ∀ v : Value, v.isScalar = true → V v
  list : ∀ items, V (.list items) ↔ ∀ v ∈ items, V v
  map : ∀ pairs : List (String × Value), (∀ p ∈ pairs, V p.2) → V (.map (Keyed.ofPairs pairs))
  entry : ∀ entries key v, V (.map entries) → Keyed.get? entries key = some v → V v

/-- To be any value at all is closed. -/
lemma Value.closed_true : Value.Closed fun _ => True :=
  ⟨fun _ _ => trivial, fun _ => ⟨fun _ _ _ => trivial, fun _ => trivial⟩, fun _ _ => trivial,
    fun _ _ _ _ _ => trivial⟩

/-- A number that is exact is a scalar. -/
lemma exactInt_yields (n : Int) (fault : EvaluationFault) :
    Yields (·.isScalar = true) (·.isFault = true) (exactInt n fault) := by
  unfold exactInt
  split
  · exact .ok rfl
  · exact .error rfl

namespace Value

/-- A test fails with an error of types only. -/
lemma test_yields (place : String) (v : Value) : Yields (fun _ => True) (·.isFault = true) (v.test place) := by
  cases v with
  | null => exact .ok trivial
  | bool b => exact .ok trivial
  | _ => exact .error rfl

/-- A negation has a number as its value. -/
lemma negate_yields (v : Value) : Yields (·.isScalar = true) (·.isFault = true) v.negate := by
  cases v with
  | null => exact .ok rfl
  | int n => exact exactInt_yields _ _
  | float x => exact .ok rfl
  | _ => exact .error rfl

/-- A comparison has a boolean as its value. -/
lemma comparison_yields (op : BinaryOp) (accepts : Ordering → Bool) (a b : Value) :
    Yields (·.isScalar = true) (·.isFault = true) (comparison op accepts a b) := by
  unfold comparison
  split
  · exact .ok rfl
  · split
    · exact .ok rfl
    · split
      · exact .ok rfl
      · exact .error rfl

/-- Membership fails with an error of types only. -/
lemma isMember_yields (needle haystack : Value) :
    Yields (fun _ => True) (·.isFault = true) (isMember needle haystack) := by
  unfold isMember
  split <;> first | exact .ok trivial | exact .error rfl

/-- Arithmetic on integers has an integer as its value, or fails because there is none. -/
lemma intArithmetic_yields (op : BinaryOp) (a b : Int) :
    Yields (·.isScalar = true) (·.isFault = true) (intArithmetic op a b) := by
  cases op with
  | add => exact exactInt_yields _ _
  | subtract => exact exactInt_yields _ _
  | multiply => exact exactInt_yields _ _
  | divide =>
    rw [intArithmetic]
    split
    · exact .error rfl
    · exact exactInt_yields _ _
  | modulo =>
    rw [intArithmetic]
    split
    · exact .error rfl
    · split
      · exact .error rfl
      · exact exactInt_yields _ _
  | _ => exact .error rfl

/-- Arithmetic has a number or a text as its value, or null for null. -/
lemma arithmetic_yields (op : BinaryOp) (a b : Value) :
    Yields (·.isScalar = true) (·.isFault = true) (arithmetic op a b) := by
  unfold arithmetic
  split
  · exact .ok rfl
  · exact .ok rfl
  · exact intArithmetic_yields _ _ _
  · split
    · exact .ok rfl
    · exact .error rfl
  · split
    · exact .ok rfl
    · exact .error rfl

end Value

/-- An operator has a scalar as its value, or fails because of the operands. -/
theorem BinaryOp.eval_yields (op : BinaryOp) (a b : Value) :
    Yields (·.isScalar = true) (·.isFault = true) (op.eval a b) := by
  cases op with
  | equal => exact .ok rfl
  | notEqual => exact .ok rfl
  | less => exact Value.comparison_yields _ _ _ _
  | lessEq => exact Value.comparison_yields _ _ _ _
  | greater => exact Value.comparison_yields _ _ _ _
  | greaterEq => exact Value.comparison_yields _ _ _ _
  | isIn => exact (Value.isMember_yields a b).map fun _ _ => rfl
  | _ => exact Value.arithmetic_yields _ _ _

end EventRules
