import EventRules.Expr.Operator
import EventRules.Text.Quoted

/-!
# Errors

Every way in which reading, evaluating or configuring can fail, as a cause. `Error.message` holds the wording and
`Error.kind` the phase that a cause belongs to. A computation can also break off without an error (`Panic`), so
that nothing that should come after it is done; `Halt` is either end.
-/

namespace EventRules

/-- Why no token could be read. -/
inductive LexFault where
  | unterminatedComment
  | unterminatedString
  | badUnicodeEscape
  | noSuchCharacter
  | badNumber
  | floatOutOfRange
  | integerOutOfRange
  | loneEquals
  /-- `&` or `|` that is not doubled. -/
  | notDoubled (c : Char)
  | badCharacter
  deriving DecidableEq, Repr

/-- What the grammar asked for at a token. -/
inductive Expected where
  | expression
  | closingParen
  | endOfArguments
  | endOfList
  | endOfMap
  | colonOfConditional
  | colonAfterKey
  | mapKey
  | thenWord
  deriving DecidableEq, Repr

/-- Why tokens are no expression. -/
inductive SyntaxFault where
  /-- Something else stands there, or the input ends. -/
  | missing (what : Expected) (atEnd : Bool)
  | unexpectedToken
  | trailingToken
  | badNumber
  | tooDeep (limit : Nat)
  deriving DecidableEq, Repr

/-- A value of a type that an operator or a function does not take. Types are given by their names. -/
inductive TypeFault where
  /-- A value that is no boolean where one is tested. -/
  | notBoolean (place found : String)
  | negate (found : String)
  | operands (op : BinaryOp) (left right : String)
  /-- The right side of `in` holds no members. -/
  | noMembers (found : String)
  | argument (function : String) (position : Nat) (expected found : String)
  | incomparable (function left right : String)
  | custom (message : String)
  deriving DecidableEq, Repr

/-- A computation without a result. -/
inductive EvaluationFault where
  | divisionByZero (op : BinaryOp) (left right : Int)
  | overflow (op : BinaryOp) (left right : Int)
  | negationOverflow (n : Int)
  | absOverflow (n : Int)
  | badPattern (function pattern : String)
  | custom (message : String)
  deriving DecidableEq, Repr

/-- Why a function with state is not ready. -/
inductive InitializationFault where
  | closed
  | noStore
  | notInitialized
  | custom (message : String)
  deriving DecidableEq, Repr

/-- What is wrong with a configuration. -/
inductive ConfigFault where
  | zeroCacheCapacity
  | zeroMaxDepth
  | zeroExpressionCapacity
  | emptyFunctionName
  | typesNotObject
  | indicatorsNotObject (type : String)
  | recordNotObject (type indicator : String)
  /-- A triage configuration of the wrong shape. -/
  | triageShape
  | scoreNotFinite (rule : String)
  | assignmentNotText (field : String)
  | lineNotAssignment (line : String)
  | transformationShape (found : String)
  | emptyField (expression : String)
  | enrichmentNotObject
  deriving DecidableEq, Repr

/-- A failure of the engine. -/
inductive Error where
  | lex (offset : Nat) (found : Char) (fault : LexFault)
  | parse (token : String) (position : Nat) (fault : SyntaxFault)
  | unknownFunction (name : String)
  /-- A call with fewer than `least` or, where there is a bound, more than `most` arguments. -/
  | arity (function : String) (least : Nat) (most : Option Nat) (actual : Nat)
  | type (fault : TypeFault)
  | evaluation (fault : EvaluationFault)
  | notBoolean (found : String)
  | initialization (function : String) (fault : InitializationFault)
  | duplicateFunction (name : String)
  | invalidConfig (fault : ConfigFault)
  deriving DecidableEq, Repr

/-- The phase that an error belongs to: a malformed token, a wrong shape, or a failed computation. -/
inductive ErrorKind where
  | lex
  | parse
  | evaluation
  deriving DecidableEq, Repr

def LexFault.message : LexFault → String
  | unterminatedComment => "Unterminated block comment"
  | unterminatedString => "Unterminated string literal"
  | badUnicodeEscape => "Invalid unicode escape sequence"
  | noSuchCharacter => "Invalid unicode character"
  | badNumber => "Invalid number literal"
  | floatOutOfRange => "Float literal out of range"
  | integerOutOfRange => "Integer literal out of range"
  | loneEquals => "Expected '=='"
  | notDoubled c => "Expected '" ++ String.ofList [c, c] ++ "'"
  | badCharacter => "Invalid character"

def Expected.text : Expected → String
  | expression => "an expression"
  | closingParen => "')'"
  | endOfArguments => "')' after function arguments"
  | endOfList => "']' after list items"
  | endOfMap => "'\x7d' after map entries"
  | colonOfConditional => "':' in conditional expression"
  | colonAfterKey => "':' after map key"
  | mapKey => "a map key"
  | thenWord => "'then'"

def SyntaxFault.message : SyntaxFault → String
  | missing what atEnd => "Expected " ++ what.text ++ (if atEnd then ", but reached end of input" else "")
  | unexpectedToken => "Unexpected token"
  | trailingToken => "Unexpected token after complete expression"
  | badNumber => "Invalid number literal"
  | tooDeep limit => "Expression too deeply nested (max depth: " ++ toString limit ++ ")"

def TypeFault.message : TypeFault → String
  | notBoolean place found => place ++ " expects a boolean, got " ++ found
  | negate found => "cannot negate " ++ found
  | operands op left right => "cannot apply '" ++ op.symbol ++ "' to " ++ left ++ " and " ++ right
  | noMembers found => "'in' expects a list, map or string, got " ++ found
  | argument function position expected found =>
    function ++ ": argument " ++ toString position ++ " must be a " ++ expected ++ ", got " ++ found
  | incomparable function left right => function ++ ": cannot compare " ++ left ++ " with " ++ right
  | custom message => message

def EvaluationFault.message : EvaluationFault → String
  | divisionByZero op left right =>
    "integer division by zero in '" ++ toString left ++ " " ++ op.symbol ++ " " ++ toString right ++ "'"
  | overflow op left right =>
    "integer overflow in '" ++ toString left ++ " " ++ op.symbol ++ " " ++ toString right ++ "'"
  | negationOverflow n => "integer overflow in '-" ++ toString n ++ "'"
  | absOverflow n => "ABS: integer overflow on " ++ toString n
  | badPattern function pattern => function ++ ": invalid regex '" ++ pattern ++ "'"
  | custom message => message

def InitializationFault.message : InitializationFault → String
  | closed => "function has been closed"
  | noStore => "no enrichment store configured"
  | notInitialized => "not initialized"
  | custom message => message

def ConfigFault.message : ConfigFault → String
  | zeroCacheCapacity => "cache_capacity must be at least 1"
  | zeroMaxDepth => "max_depth must be at least 1"
  | zeroExpressionCapacity => "expression cache capacity must be at least 1"
  | emptyFunctionName => "function name must not be empty"
  | typesNotObject => "enrichment data: expected an object of enrichment types"
  | indicatorsNotObject type => "enrichment data: '" ++ type ++ "' must map indicators to records"
  | recordNotObject type indicator =>
    "enrichment data: record for '" ++ type ++ "'/'" ++ indicator ++ "' must be an object"
  | triageShape => "triage configuration: "
  | scoreNotFinite rule => "triage rule '" ++ rule ++ "' has a non-finite score"
  | assignmentNotText field => "assignment to '" ++ field ++ "' must be a Stellar string"
  | lineNotAssignment line => "expected 'field := expression', got " ++ line
  | transformationShape found => "field transformation must be an object or a list, got " ++ found
  | emptyField expression => "assignment of '" ++ expression ++ "' has an empty field name"
  | enrichmentNotObject => "stellar enrichment config must be an object"

/-- How many arguments were expected, in words. -/
def arityText (least : Nat) : Option Nat → String
  | some most => if most = least then toString least else toString least ++ "-" ++ toString most
  | none => "at least " ++ toString least

namespace Error

def message : Error → String
  | lex offset found fault =>
    "Lex error at offset " ++ toString offset ++ ": " ++ fault.message ++
      " (found " ++ Text.quotedChar found ++ ")"
  | parse token position fault =>
    "Parse error at offset " ++ toString position ++ ": " ++ fault.message ++
      " (token " ++ Text.quoted token ++ ")"
  | unknownFunction name => "Function not found: " ++ name
  | arity function least most actual =>
    function ++ " expects " ++ arityText least most ++ " argument(s), got " ++ toString actual
  | type fault => "Type error: " ++ fault.message
  | evaluation fault => "Evaluation error: " ++ fault.message
  | notBoolean found => "Predicate did not return a boolean (got " ++ found ++ ")"
  | initialization function fault =>
    "Function " ++ function ++ " failed to initialize: " ++ fault.message
  | duplicateFunction name => "Function already registered: " ++ name
  | invalidConfig fault => "Invalid configuration: " ++ fault.message

def kind : Error → ErrorKind
  | lex .. => .lex
  | parse .. | unknownFunction _ | arity .. => .parse
  | _ => .evaluation

end Error

/-! ## Breaking off -/

/-- Why a computation breaks off. -/
inductive Panic where
  /-- The quoted key in a pair of brackets is cut within its last character. -/
  | brokenKey (inner : String)
  /-- A date is to be written in a format that dates can only be read in. -/
  | unwritableFormat (format : String)
  | custom (message : String)
  deriving DecidableEq, Repr

/-- How a computation ends that has no value. It fails with an error, which is handed to whoever asked for the value;
or it breaks off, which nobody is told, and nothing is done any more. -/
inductive Halt where
  | failure (e : Error)
  | panic (p : Panic)
  deriving DecidableEq, Repr

/-- What can only fail is also a computation that might break off. -/
instance : MonadLift (Except Error) (Except Halt) where
  monadLift x := x.mapError .failure

instance : MonadLift (Except Panic) (Except Halt) where
  monadLift x := x.mapError .panic

end EventRules
