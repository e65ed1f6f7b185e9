import EventRules.Text.Casing

/-!
# Tokens

A token is a word, a number, a text, an operator or a mark of punctuation, with the place where it starts.
-/

namespace EventRules

/-- What a token is. -/
inductive TokenKind where
  | identifier
  | number
  | string
  | operator
  | lparen
  | rparen
  | comma
  | lbracket
  | rbracket
  | lbrace
  | rbrace
  | colon
  | eof
  deriving DecidableEq, Repr, Inhabited

/-- A token. Its text is the source for identifiers and numbers, the meaning for string literals and the canonical
spelling for operators. Its offset counts characters from the start of the source. -/
structure Token where
  kind : TokenKind
  text : String
  offset : Nat
  deriving DecidableEq, Repr, Inhabited

namespace Token

/-- The end of the input. -/
def eof (offset : Nat) : Token := ⟨.eof, "", offset⟩

/-- Whether the token is the operator with this canonical spelling. -/
def isOperator (t : Token) (op : String) : Bool :=
  t.kind == .operator && t.text == op

/-- Whether the token is an identifier with this spelling, in small or capital ASCII letters; `word` is given in
small letters. -/
def isWord (t : Token) (word : String) : Bool :=
  t.kind == .identifier && Text.toLowerAscii t.text == word

/-- Whether the token can end an operand, so that a minus after it is an operator and no sign. The words of a
conditional never end one. -/
def endsOperand (t : Token) : Bool :=
  match t.kind with
  | .identifier => !(t.isWord "if" || t.isWord "then" || t.isWord "else")
  | .number | .string | .rparen | .rbracket | .rbrace => true
  | _ => false

end Token

end EventRules
