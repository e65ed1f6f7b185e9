/-!
# Operators

The operators of expressions with their spellings, one level of precedence at a time.
-/

namespace EventRules

/-- An operator between two operands. -/
inductive BinaryOp where
  | and
  | or
  | equal
  | notEqual
  | less
  | lessEq
  | greater
  | greaterEq
  | isIn
  | add
  | subtract
  | multiply
  | divide
  | modulo
  deriving DecidableEq, Repr, Inhabited

/-- An operator before its operand; `exists` asks for a value that is not null. -/
inductive UnaryOp where
  | not
  | negate
  | exists
  deriving DecidableEq, Repr, Inhabited

namespace BinaryOp

/-- The spelling of the operator. -/
def symbol : BinaryOp → String
  | and => "&&"
  | or => "||"
  | equal => "=="
  | notEqual => "!="
  | less => "<"
  | lessEq => "<="
  | greater => ">"
  | greaterEq => ">="
  | isIn => "in"
  | add => "+"
  | subtract => "-"
  | multiply => "*"
  | divide => "/"
  | modulo => "%"

/-- The comparison with this spelling. -/
def comparison? : String → Option BinaryOp
  | "==" => some equal
  | "!=" => some notEqual
  | "<" => some less
  | "<=" => some lessEq
  | ">" => some greater
  | ">=" => some greaterEq
  | "in" => some isIn
  | _ => none

/-- The sum or difference with this spelling. -/
def additive? : String → Option BinaryOp
  | "+" => some add
  | "-" => some subtract
  | _ => none

/-- The product, quotient or remainder with this spelling. -/
def multiplicative? : String → Option BinaryOp
  | "*" => some multiply
  | "/" => some divide
  | "%" => some modulo
  | _ => none

end BinaryOp

end EventRules
