import EventRules.Expr.Operator
import EventRules.Value.Order

/-!
# Expressions

The tree of an expression, and the expression as it is kept: the tree with the source that it was read from.
-/

namespace EventRules

/-- The tree of an expression. The entries of a map keep the order of the source. -/
inductive Expr where
  | literal (value : Value)
  | variable (name : String)
  | call (name : String) (args : List Expr)
  | binary (op : BinaryOp) (left right : Expr)
  | unary (op : UnaryOp) (operand : Expr)
  /-- A conditional without an alternative, which stands for null. -/
  | ifThen (condition consequence : Expr)
  | ifElse (condition consequence alternative : Expr)
  | list (items : List Expr)
  | map (entries : List (String × Expr))
  deriving Inhabited, Repr

namespace Expr

mutual

/-- The expression and all its parts, a whole before its parts and the parts from left to right. -/
def nodes : Expr → List Expr
  | .literal v => [.literal v]
  | .variable name => [.variable name]
  | .call name args => .call name args :: nodesOfItems args
  | .binary op left right => .binary op left right :: (nodes left ++ nodes right)
  | .unary op operand => .unary op operand :: nodes operand
  | .ifThen c t => .ifThen c t :: (nodes c ++ nodes t)
  | .ifElse c t e => .ifElse c t e :: (nodes c ++ nodes t ++ nodes e)
  | .list items => .list items :: nodesOfItems items
  | .map entries => .map entries :: nodesOfEntries entries

/-- The nodes of several expressions. -/
def nodesOfItems : List Expr → List Expr
  | [] => []
  | item :: rest => nodes item ++ nodesOfItems rest

/-- The nodes of the values of map entries. -/
def nodesOfEntries : List (String × Expr) → List Expr
  | [] => []
  | (_, value) :: rest => nodes value ++ nodesOfEntries rest

end

/-- The name, if the node is a variable. -/
def variableName? : Expr → Option String
  | .variable name => some name
  | _ => none

/-- The name of the function, if the node is a call. -/
def functionName? : Expr → Option String
  | .call name _ => some name
  | _ => none

/-- The names of the variables of the expression, each once, in the order of their first use. -/
def variableNames (e : Expr) : List String :=
  (e.nodes.filterMap variableName?).eraseDups

/-- The names of the functions that the expression calls, each once, in the order of their first use. -/
def functionNames (e : Expr) : List String :=
  (e.nodes.filterMap functionName?).eraseDups

mutual

/-- Whether two trees are the same, with floats compared as numbers. -/
def same : Expr → Expr → Bool
  | .literal v, .literal w => v.strictEq w
  | .variable a, .variable b => a == b
  | .call f as, .call g bs => f == g && sameItems as bs
  | .binary o a b, .binary p c d => o == p && same a c && same b d
  | .unary o a, .unary p b => o == p && same a b
  | .ifThen a b, .ifThen c d => same a c && same b d
  | .ifElse a b c, .ifElse d e f => same a d && same b e && same c f
  | .list as, .list bs => sameItems as bs
  | .map as, .map bs => sameEntries as bs
  | _, _ => false

/-- Whether two lists of trees are the same. -/
def sameItems : List Expr → List Expr → Bool
  | [], [] => true
  | a :: as, b :: bs => same a b && sameItems as bs
  | _, _ => false

/-- Whether two lists of map entries are the same. -/
def sameEntries : List (String × Expr) → List (String × Expr) → Bool
  | [], [] => true
  | (k, a) :: as, (l, b) :: bs => k == l && same a b && sameEntries as bs
  | _, _ => false

end

end Expr

/-- An expression as it is kept: its exact source and its tree. -/
structure Expression where
  source : String
  root : Expr
  deriving Inhabited, Repr

/-- Two kept expressions count as equal when their sources are. -/
def Expression.sameSource (a b : Expression) : Bool :=
  a.source == b.source

end EventRules
