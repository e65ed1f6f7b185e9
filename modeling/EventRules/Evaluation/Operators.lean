import EventRules.Decimal.Reader
import EventRules.Error
import EventRules.Text.Search
import EventRules.Value.Document
import EventRules.Value.Order

/-!
# Meaning of the operators

Null counts as false where a boolean is tested, makes every comparison false and every sum null. Integers are exact
or fail; an integer beside a float is widened. Comparison needs two numbers, two texts or two booleans.
-/

namespace EventRules

/-- An integer result of an operator, or what to say if it does not fit in 64 bits. -/
def exactInt (result : Int) (fault : EvaluationFault) : Except Error Value :=
  match Decimal.int64Of? result with
  | some n => .ok (.int n)
  | none => .error (.evaluation fault)

namespace Value

/-- The boolean that a value stands for where one is tested. -/
def test (place : String) : Value → Except Error Bool
  | .null => .ok false
  | .bool b => .ok b
  | v => .error (.type (.notBoolean place v.typeName))

/-- The boolean that a value stands for as the result of a predicate. -/
def predicate : Value → Except Error Bool
  | .null => .ok false
  | .bool b => .ok b
  | v => .error (.notBoolean v.typeName)

/-- The value with its sign changed. -/
def negate : Value → Except Error Value
  | .null => .ok .null
  | .int n => exactInt (-n.toInt) (.negationOverflow n.toInt)
  | .float x => .ok (.float (-x))
  | v => .error (.type (.negate v.typeName))

/-- The error that an operator does not take two values. -/
def badOperands {α : Type} (op : BinaryOp) (a b : Value) : Except Error α :=
  .error (.type (.operands op a.typeName b.typeName))

/-- A comparison that holds for the orders that `accepts` says. -/
def comparison (op : BinaryOp) (accepts : Ordering → Bool) (a b : Value) : Except Error Value :=
  if a.isNull || b.isNull then .ok (.bool false)
  else match compare? a b with
    | some order => .ok (.bool (accepts order))
    | none => if a.isNumeric && b.isNumeric then .ok (.bool false) else badOperands op a b

/-- Whether a value is an item of a list, a key of a map or a part of a text. -/
def isMember (needle haystack : Value) : Except Error Bool :=
  match haystack with
  | .null => .ok false
  | .list items => .ok (items.any fun item => item.looseEq needle)
  | .map entries => .ok (needle.string?.any fun key => Keyed.has entries key)
  | .string s => .ok (!needle.isNull && Text.contains s needle.text)
  | v => .error (.type (.noMembers v.typeName))

/-- Arithmetic on integers. Division and remainder round toward zero. -/
def intArithmetic (op : BinaryOp) (a b : Int) : Except Error Value :=
  match op with
  | .add => exactInt (a + b) (.overflow op a b)
  | .subtract => exactInt (a - b) (.overflow op a b)
  | .multiply => exactInt (a * b) (.overflow op a b)
  | .divide =>
    if b = 0 then .error (.evaluation (.divisionByZero op a b)) else exactInt (a.tdiv b) (.overflow op a b)
  | .modulo =>
    if b = 0 then .error (.evaluation (.divisionByZero op a b))
    else if (Decimal.int64Of? (a.tdiv b)).isNone then .error (.evaluation (.overflow op a b))
    else exactInt (a.tmod b) (.overflow op a b)
  | _ => .error (.evaluation (.overflow op a b))

/-- Arithmetic on floats. -/
def floatArithmetic (op : BinaryOp) (a b : Float) : Float :=
  match op with
  | .add => a + b
  | .subtract => a - b
  | .multiply => a * b
  | .divide => a / b
  | _ => Decimal.remainder a b

/-- An arithmetic operator on two values; texts can be added. -/
def arithmetic (op : BinaryOp) (a b : Value) : Except Error Value :=
  match a, b with
  | .null, _ => .ok .null
  | _, .null => .ok .null
  | .int m, .int n => intArithmetic op m.toInt n.toInt
  | .string s, .string t => if op = .add then .ok (.string (s ++ t)) else badOperands op a b
  | _, _ =>
    match a.float?, b.float? with
    | some x, some y => .ok (.float (floatArithmetic op x y))
    | _, _ => badOperands op a b

end Value

/-- An operator other than `&&` and `||` on the values of its operands. -/
def BinaryOp.eval (op : BinaryOp) (a b : Value) : Except Error Value :=
  match op with
  | .equal => .ok (.bool (a.looseEq b))
  | .notEqual => .ok (.bool !(a.looseEq b))
  | .less => a.comparison op (·.isLT) b
  | .lessEq => a.comparison op (·.isLE) b
  | .greater => a.comparison op (·.isGT) b
  | .greaterEq => a.comparison op (·.isGE) b
  | .isIn => (Value.isMember a b).map .bool
  | _ => Value.arithmetic op a b

end EventRules
