import EventRules.Expr.Parser
import Mathlib.Tactic.Lemma

/-!
# Reading expressions by positions

The grammar once more, for a parser that keeps all tokens and moves a position along them
(`IndexedParser`). It looks at the token at its position, and behind a word at the one after it. To look
where no token is is a fault of its own (`Fault.outside`), and so is a loop that does not end
(`Fault.endless`); neither is an error of the grammar. What is taken is remembered with what it was taken
as (`TokenRole`), so that it can be said afterwards which tokens were words of the language.
-/

namespace EventRules

/-- What a parser takes a token as. -/
inductive TokenRole where
  /-- A literal that is a word, or a word of a conditional. -/
  | word
  | variable
  | function
  | key
  /-- A number, a text, an operator or a mark of punctuation. -/
  | mark
  deriving DecidableEq, Repr

/-- How a parser that goes by positions fails. -/
inductive Fault where
  /-- There is no token at the position that it looks at. -/
  | outside (position : Nat)
  /-- A loop took no token in one of its rounds. -/
  | endless
  /-- The tokens write no expression. -/
  | failed (e : Error)
  deriving DecidableEq, Repr

/-- A parser that goes by positions. It keeps what the tokens so far were taken as, the latest first; their
number is its position. -/
abbrev IndexedParser (α : Type) := StateT (List TokenRole) (Except Fault) α

namespace IndexedParser

/-- The tokens with an end of the input as the last of them, which follows the text of the last token where it
is added. -/
def completed (tokens : List Token) : List Token :=
  match tokens.getLast? with
  | some t => if t.kind = .eof then tokens else tokens ++ [.eof (t.offset + t.text.length)]
  | none => [.eof 0]

variable {α : Type} (tokens : List Token)

/-- The token at a position. -/
def read (position : Nat) : IndexedParser Token :=
  match tokens[position]? with
  | some t => return t
  | none => throw (.outside position)

/-- The token at the position of the parser. -/
def current : IndexedParser Token := do
  read tokens (← get).length

/-- The token after the current one. -/
def lookahead : IndexedParser Token := do
  read tokens ((← get).length + 1)

/-- Takes the current token; the end of the input stays. -/
def take (role : TokenRole) : IndexedParser Unit := do
  if (← current tokens).kind ≠ .eof then
    modify (role :: ·)

/-- An error at a token. -/
def failAt (t : Token) (fault : SyntaxFault) : IndexedParser α :=
  throw (.failed (.parse t.text t.offset fault))

/-- The error that something is missing. -/
def missing (what : Expected) : IndexedParser α := do
  let t ← current tokens
  failAt t (.missing what (t.kind = .eof))

/-- Takes a token of the given kind. -/
def expect (kind : TokenKind) (what : Expected) : IndexedParser Unit := do
  if (← current tokens).kind = kind then take tokens .mark else missing tokens what

/-- Takes the current token, if it is an operator that `op?` knows. -/
def operator? (op? : String → Option BinaryOp) : IndexedParser (Option BinaryOp) := do
  let t ← current tokens
  match if t.kind = .operator then op? t.text else none with
  | some op =>
    take tokens .mark
    return some op
  | none => return none

/-- Further operands of a chain that groups to the left. -/
def chainRest (op? : String → Option BinaryOp) (operand : IndexedParser Expr) :
    (fuel : Nat) → Expr → IndexedParser Expr
  | 0, _ => throw .endless
  | fuel + 1, left => do
    match ← operator? tokens op? with
    | none => return left
    | some op => chainRest op? operand fuel (.binary op left (← operand))

/-- Operands with operators of one level between them. -/
def chain (op? : String → Option BinaryOp) (operand : IndexedParser Expr) : IndexedParser Expr := do
  chainRest tokens op? operand (tokens.length + 1) (← operand)

/-- Further expressions after commas, up to the closing token. -/
def delimitedRest (item : IndexedParser Expr) (close : TokenKind) (what : Expected) :
    (fuel : Nat) → IndexedParser (List Expr)
  | 0 => throw .endless
  | fuel + 1 => do
    if (← current tokens).kind = .comma then
      take tokens .mark
      let next ← item
      return next :: (← delimitedRest item close what fuel)
    else
      expect tokens close what
      return []

/-- Expressions with commas between them, up to the closing token. The opening token has been taken. -/
def delimited (item : IndexedParser Expr) (close : TokenKind) (what : Expected) : IndexedParser (List Expr) := do
  if (← current tokens).kind = close then
    take tokens .mark
    return []
  else
    let first ← item
    return first :: (← delimitedRest tokens item close what (tokens.length + 1))

/-- A key of a map literal: a text, a word or a number. -/
def mapKey : IndexedParser String := do
  let t ← current tokens
  match t.kind with
  | .string | .identifier | .number =>
    take tokens .key
    return t.text
  | _ => missing tokens .mapKey

/-- A key, a colon and an expression. -/
def mapEntry (item : IndexedParser Expr) : IndexedParser (String × Expr) := do
  let key ← mapKey tokens
  expect tokens .colon .colonAfterKey
  return (key, ← item)

/-- Further entries after commas, up to the closing brace. -/
def mapRest (item : IndexedParser Expr) : (fuel : Nat) → IndexedParser (List (String × Expr))
  | 0 => throw .endless
  | fuel + 1 => do
    if (← current tokens).kind = .comma then
      take tokens .mark
      let next ← mapEntry tokens item
      return next :: (← mapRest item fuel)
    else
      expect tokens .rbrace .endOfMap
      return []

/-- The entries of a map literal after its opening brace. -/
def mapEntries (item : IndexedParser Expr) : IndexedParser (List (String × Expr)) := do
  if (← current tokens).kind = .rbrace then
    take tokens .mark
    return []
  else
    let first ← mapEntry tokens item
    return first :: (← mapRest tokens item (tokens.length + 1))

/-- The rest of a conditional after `if`. -/
def conditionalWords (item : IndexedParser Expr) : IndexedParser Expr := do
  let condition ← item
  if !(← current tokens).isWord "then" then missing tokens .thenWord
  else
    take tokens .word
    let consequence ← item
    if (← current tokens).isWord "else" then
      take tokens .word
      return .ifElse condition consequence (← item)
    else return .ifThen condition consequence

/-- What a word stands for: a literal, a conditional or a variable. -/
def word (item : IndexedParser Expr) : IndexedParser Expr := do
  let t ← current tokens
  match Text.toLowerAscii t.text with
  | "true" =>
    take tokens .word
    return .literal (.bool true)
  | "false" =>
    take tokens .word
    return .literal (.bool false)
  | "null" =>
    take tokens .word
    return .literal .null
  | "if" =>
    take tokens .word
    conditionalWords tokens item
  | _ =>
    take tokens .variable
    return .variable t.text

/-- A literal, a word, or something in brackets. -/
def primary (item : IndexedParser Expr) : IndexedParser Expr := do
  let t ← current tokens
  match t.kind with
  | .number =>
    take tokens .mark
    match Parser.numberValue? t.text with
    | some v => return .literal v
    | none => failAt t .badNumber
  | .string =>
    take tokens .mark
    return .literal (.string t.text)
  | .lparen =>
    take tokens .mark
    let e ← item
    expect tokens .rparen .closingParen
    return e
  | .lbracket =>
    take tokens .mark
    return .list (← delimited tokens item .rbracket .endOfList)
  | .lbrace =>
    take tokens .mark
    return .map (← mapEntries tokens item)
  | .identifier => word tokens item
  | .eof => missing tokens .expression
  | _ => failAt t .unexpectedToken

/-- Whether a call begins at the current token. The token after it is looked at behind a word only. -/
def beginsCall : IndexedParser Bool := do
  let name ← current tokens
  if name.kind = .identifier then
    return (← lookahead tokens).kind = .lparen && !name.isWord "if"
  else return false

/-- A call, or a primary. -/
def call (item : IndexedParser Expr) : IndexedParser Expr := do
  if ← beginsCall tokens then
    let name ← current tokens
    take tokens .function
    take tokens .mark
    return .call name.text (← delimited tokens item .rparen .endOfArguments)
  else primary tokens item

/-- A prefix operator and its operand, or a call. -/
def prefixed (deeper : Entry → IndexedParser Expr) : IndexedParser Expr := do
  let t ← current tokens
  match if t.kind = .operator then Parser.prefixOp? t.text else none with
  | some op =>
    take tokens .mark
    return .unary op (← deeper .prefixed)
  | none => call tokens (deeper .expression)

/-- Comparisons of sums of products. -/
def comparison (deeper : Entry → IndexedParser Expr) : IndexedParser Expr :=
  chain tokens BinaryOp.comparison? <| chain tokens BinaryOp.additive? <|
    chain tokens BinaryOp.multiplicative? <| prefixed tokens deeper

/-- A negation of lowest precedence, or a comparison. -/
def negation (deeper : Entry → IndexedParser Expr) : IndexedParser Expr := do
  if (← current tokens).isOperator "!" then
    take tokens .mark
    return .unary .not (← deeper .negation)
  else comparison tokens deeper

/-- Alternatives of conjunctions of negations. -/
def disjunction (deeper : Entry → IndexedParser Expr) : IndexedParser Expr :=
  chain tokens (fun s => if s = "||" then some .or else none) <|
    chain tokens (fun s => if s = "&&" then some .and else none) <| negation tokens deeper

/-- A conditional with its two signs, or only its condition. -/
def conditional (deeper : Entry → IndexedParser Expr) : IndexedParser Expr := do
  let condition ← disjunction tokens deeper
  if (← current tokens).isOperator "?" then
    take tokens .mark
    let consequence ← deeper .expression
    expect tokens .colon .colonOfConditional
    return .ifElse condition consequence (← deeper .expression)
  else return condition

/-- Goes one level of nesting deeper, where `room` more levels are allowed. -/
def descend (limit : Nat) : (room : Nat) → Entry → IndexedParser Expr
  | 0, _ => do failAt (← current tokens) (.tooDeep limit)
  | room + 1, .expression => conditional tokens (descend limit room)
  | room + 1, .negation => negation tokens (descend limit room)
  | room + 1, .prefixed => prefixed tokens (descend limit room)

/-- One expression up to the first end of the input. -/
def whole (limit : Nat) : IndexedParser Expr := do
  let e ← descend tokens limit limit .expression
  let t ← current tokens
  if t.kind = .eof then return e else failAt t .trailingToken

/-- The expression that tokens write, and what each token up to the first end of the input was taken as. -/
def parse (maxDepth : Nat) : Except Fault (Expr × List TokenRole) :=
  ((whole (completed tokens) maxDepth).run []).map fun (e, taken) => (e, taken.reverse)

end IndexedParser

end EventRules
