import EventRules.Expr.Basic
import EventRules.Token.Lexer

/-!
# Reading expressions

The grammar, from the loosest level to the tightest: conditional, or, and, not, comparison, sum, product, prefix
operator, call, primary. Chains of binary operators group to the left, conditionals to the right. Parentheses,
arguments, items, branches and the operands of prefix operators are a level of nesting deeper, and nesting has a
limit. The levels are functions of the parser for the next deeper level, so the recursion follows the limit.
-/

namespace EventRules

/-- A source of tokens: the tokens before the end of the input, and the token that marks the end. -/
structure TokenStream where
  tokens : List Token
  stop : Token

/-- The stream of a list of tokens. Nothing after the first end of the input counts; where there is none, the end
follows the text of the last token. -/
def TokenStream.ofTokens (tokens : List Token) : TokenStream where
  tokens := tokens.takeWhile (·.kind ≠ .eof)
  stop := (tokens.find? (·.kind = .eof)).getD <|
    .eof ((tokens.getLast?.map fun t => t.offset + t.text.length).getD 0)

/-- A parser of a part of the input: it takes tokens off the front or fails. -/
abbrev Parser (α : Type) := StateT (List Token) (Except Error) α

/-- The ways into the next deeper level of nesting. -/
inductive Entry where
  | expression
  | negation
  | prefixed
  deriving DecidableEq, Repr

namespace Parser

/-- The token at the front, the end of the input where none is left. -/
def current (stop : Token) : Parser Token :=
  return (← get).headD stop

/-- Takes the token at the front; the end of the input stays. -/
def advance (stop : Token) : Parser Token := do
  let ts ← get
  set ts.tail
  return ts.headD stop

/-- An error at a token. -/
def failAt {α : Type} (t : Token) (fault : SyntaxFault) : Parser α :=
  throw (.parse t.text t.offset fault)

/-- The error that something is missing at the front. -/
def missing {α : Type} (stop : Token) (what : Expected) : Parser α := do
  let t ← current stop
  failAt t (.missing what (t.kind = .eof))

/-- Takes a token of the given kind. -/
def expect (stop : Token) (kind : TokenKind) (what : Expected) : Parser Unit := do
  if (← current stop).kind = kind then
    discard (advance stop)
  else missing stop what

/-- Takes the operator at the front, if it is one that `op?` knows. -/
def operator? (stop : Token) (op? : String → Option BinaryOp) : Parser (Option BinaryOp) := do
  let t ← current stop
  match if t.kind = .operator then op? t.text else none with
  | some op =>
    discard (advance stop)
    return some op
  | none => return none

/-- Further operands of a chain that groups to the left. Every operator is a token, so the number of tokens is
fuel enough. -/
def chainRest (stop : Token) (op? : String → Option BinaryOp) (operand : Parser Expr) :
    (fuel : Nat) → Expr → Parser Expr
  | 0, left => return left
  | fuel + 1, left => do
    match ← operator? stop op? with
    | none => return left
    | some op => chainRest stop op? operand fuel (.binary op left (← operand))

/-- Operands with operators of one level between them. -/
def chain (stop : Token) (op? : String → Option BinaryOp) (operand : Parser Expr) : Parser Expr := do
  let left ← operand
  chainRest stop op? operand (← get).length left

/-- Further expressions after commas, up to the closing token. -/
def delimitedRest (stop : Token) (item : Parser Expr) (close : TokenKind) (what : Expected) :
    (fuel : Nat) → Parser (List Expr)
  | 0 => missing stop what
  | fuel + 1 => do
    if (← current stop).kind = .comma then
      discard (advance stop)
      let next ← item
      return next :: (← delimitedRest stop item close what fuel)
    else
      expect stop close what
      return []

/-- Expressions with commas between them, up to the closing token. The opening token has been taken. -/
def delimited (stop : Token) (item : Parser Expr) (close : TokenKind) (what : Expected) : Parser (List Expr) := do
  if (← current stop).kind = close then
    discard (advance stop)
    return []
  else
    let first ← item
    return first :: (← delimitedRest stop item close what ((← get).length + 1))

/-- A key of a map literal: a text, a word or a number. -/
def mapKey (stop : Token) : Parser String := do
  let t ← current stop
  match t.kind with
  | .string | .identifier | .number =>
    discard (advance stop)
    return t.text
  | _ => missing stop .mapKey

/-- A key, a colon and an expression. -/
def mapEntry (stop : Token) (item : Parser Expr) : Parser (String × Expr) := do
  let key ← mapKey stop
  expect stop .colon .colonAfterKey
  return (key, ← item)

/-- Further entries after commas, up to the closing brace. -/
def mapRest (stop : Token) (item : Parser Expr) : (fuel : Nat) → Parser (List (String × Expr))
  | 0 => missing stop .endOfMap
  | fuel + 1 => do
    if (← current stop).kind = .comma then
      discard (advance stop)
      let next ← mapEntry stop item
      return next :: (← mapRest stop item fuel)
    else
      expect stop .rbrace .endOfMap
      return []

/-- The entries of a map literal after its opening brace. -/
def mapEntries (stop : Token) (item : Parser Expr) : Parser (List (String × Expr)) := do
  if (← current stop).kind = .rbrace then
    discard (advance stop)
    return []
  else
    let first ← mapEntry stop item
    return first :: (← mapRest stop item ((← get).length + 1))

/-- The value of a number token: a float if its text has a point or the letter of an exponent, else an integer. -/
def numberValue? (text : String) : Option Value :=
  let cs := text.toList
  if cs.any fun c => c == '.' || c == 'e' || c == 'E' then (Decimal.readFloat? cs).map .float
  else (Decimal.readInt64? cs).map .int

/-- The rest of a conditional after `if`. -/
def conditionalWords (stop : Token) (item : Parser Expr) : Parser Expr := do
  let condition ← item
  if !(← current stop).isWord "then" then missing stop .thenWord
  else
    discard (advance stop)
    let consequence ← item
    if (← current stop).isWord "else" then
      discard (advance stop)
      return .ifElse condition consequence (← item)
    else return .ifThen condition consequence

/-- What a word stands for: a literal, a conditional or a variable. -/
def word (stop : Token) (item : Parser Expr) : Parser Expr := do
  let t ← advance stop
  match Text.toLowerAscii t.text with
  | "true" => return .literal (.bool true)
  | "false" => return .literal (.bool false)
  | "null" => return .literal .null
  | "if" => conditionalWords stop item
  | _ => return .variable t.text

/-- A literal, a word, or something in brackets. -/
def primary (stop : Token) (item : Parser Expr) : Parser Expr := do
  let t ← current stop
  match t.kind with
  | .number =>
    discard (advance stop)
    match numberValue? t.text with
    | some v => return .literal v
    | none => failAt t .badNumber
  | .string =>
    discard (advance stop)
    return .literal (.string t.text)
  | .lparen =>
    discard (advance stop)
    let e ← item
    expect stop .rparen .closingParen
    return e
  | .lbracket =>
    discard (advance stop)
    return .list (← delimited stop item .rbracket .endOfList)
  | .lbrace =>
    discard (advance stop)
    return .map (← mapEntries stop item)
  | .identifier => word stop item
  | .eof => missing stop .expression
  | _ => failAt t .unexpectedToken

/-- A call, or a primary. The word `if` is no function, also before a parenthesis. -/
def call (stop : Token) (item : Parser Expr) : Parser Expr := do
  match ← get with
  | name :: paren :: rest =>
    if name.kind = .identifier ∧ paren.kind = .lparen ∧ !name.isWord "if" then
      set rest
      return .call name.text (← delimited stop item .rparen .endOfArguments)
    else primary stop item
  | _ => primary stop item

/-- The prefix operator with this spelling. -/
def prefixOp? : String → Option UnaryOp
  | "-" => some .negate
  | "!" => some .not
  | "exists" => some .exists
  | _ => none

/-- A prefix operator and its operand, or a call. -/
def prefixed (stop : Token) (deeper : Entry → Parser Expr) : Parser Expr := do
  let t ← current stop
  match if t.kind = .operator then prefixOp? t.text else none with
  | some op =>
    discard (advance stop)
    return .unary op (← deeper .prefixed)
  | none => call stop (deeper .expression)

/-- Comparisons of sums of products. -/
def comparison (stop : Token) (deeper : Entry → Parser Expr) : Parser Expr :=
  chain stop BinaryOp.comparison? <| chain stop BinaryOp.additive? <|
    chain stop BinaryOp.multiplicative? <| prefixed stop deeper

/-- A negation of lowest precedence, or a comparison. -/
def negation (stop : Token) (deeper : Entry → Parser Expr) : Parser Expr := do
  if (← current stop).isOperator "!" then
    discard (advance stop)
    return .unary .not (← deeper .negation)
  else comparison stop deeper

/-- Alternatives of conjunctions of negations. -/
def disjunction (stop : Token) (deeper : Entry → Parser Expr) : Parser Expr :=
  chain stop (fun s => if s = "||" then some .or else none) <|
    chain stop (fun s => if s = "&&" then some .and else none) <| negation stop deeper

/-- A conditional with its two signs, or only its condition. -/
def conditional (stop : Token) (deeper : Entry → Parser Expr) : Parser Expr := do
  let condition ← disjunction stop deeper
  if (← current stop).isOperator "?" then
    discard (advance stop)
    let consequence ← deeper .expression
    expect stop .colon .colonOfConditional
    return .ifElse condition consequence (← deeper .expression)
  else return condition

/-- Goes one level of nesting deeper, where `room` more levels are allowed. -/
def descend (stop : Token) (limit : Nat) : (room : Nat) → Entry → Parser Expr
  | 0, _ => do failAt (← current stop) (.tooDeep limit)
  | room + 1, .expression => conditional stop (descend stop limit room)
  | room + 1, .negation => negation stop (descend stop limit room)
  | room + 1, .prefixed => prefixed stop (descend stop limit room)

/-- One expression that takes all tokens. -/
def whole (stop : Token) (limit : Nat) : Parser Expr := do
  let e ← descend stop limit limit .expression
  let t ← current stop
  if t.kind = .eof then return e else failAt t .trailingToken

end Parser

/-- How deep expressions may nest unless something else is said. -/
def defaultMaxDepth : Nat := 200

/-- The expression that a list of tokens writes. -/
def Expr.ofTokens (tokens : List Token) (maxDepth : Nat) : Except Error Expr :=
  let stream := TokenStream.ofTokens tokens
  (Parser.whole stream.stop maxDepth).run' stream.tokens

/-- The expression of a source, nested at most `maxDepth` deep. -/
def Expression.parse (source : String) (maxDepth : Nat) : Except Error Expression := do
  let tokens ← tokenize source
  return ⟨source, ← Expr.ofTokens tokens maxDepth⟩

end EventRules
