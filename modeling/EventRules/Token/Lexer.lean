import EventRules.Decimal.Layout
import EventRules.Decimal.Reader
import EventRules.Error
import EventRules.Token.Basic

/-!
# Reading tokens

A lexer goes through a source character by character. It passes over blanks and comments, spells word operators by
their symbols, and takes a minus as part of a number only where no operand has just ended. After an error it goes on
from where the error left it.
-/

namespace EventRules

/-- The part of a source that is still to be read. -/
structure Cursor where
  rest : List Char
  position : Nat
  deriving DecidableEq, Repr

/-- The cursor after `n` more characters. -/
def Cursor.advance (c : Cursor) (n : Nat) : Cursor :=
  ⟨c.rest.drop n, c.position + n⟩

/-- A lexer: the place in the source, and whether the token before it ended an operand. -/
structure Lexer extends Cursor where
  afterOperand : Bool := false
  deriving DecidableEq, Repr

namespace Lexer

/-- The lexer at the start of a source. -/
def ofSource (source : String) : Lexer :=
  { rest := source.toList, position := 0 }

/-- Where in the text between two tokens the lexer stands: outside comments, in a comment up to the end of the
line, or in a block comment that started at `start`. -/
inductive Gap where
  | blank
  | lineComment
  | blockComment (start : Nat)

/-- Passes over blanks and comments; a block comment has to end. -/
def skipGap : Gap → Nat → List Char → Except Error Unit × Cursor
  | .blockComment start, position, [] =>
    (.error (.lex start '/' .unterminatedComment), ⟨[], position⟩)
  | .blank, position, '/' :: '/' :: rest => skipGap .lineComment (position + 2) rest
  | .blank, position, '/' :: '*' :: rest => skipGap (.blockComment position) (position + 2) rest
  | .blank, position, c :: rest =>
    if Text.isBlank c then skipGap .blank (position + 1) rest else (.ok (), ⟨c :: rest, position⟩)
  | .lineComment, position, c :: rest =>
    skipGap (if c = '\n' then .blank else .lineComment) (position + 1) rest
  | .blockComment _, position, '*' :: '/' :: rest => skipGap .blank (position + 2) rest
  | .blockComment start, position, _ :: rest => skipGap (.blockComment start) (position + 1) rest
  | _, position, [] => (.ok (), ⟨[], position⟩)

/-- The character of an escape of one letter; any other letter keeps its backslash. -/
def escapeMeaning (c : Char) : List Char :=
  match c with
  | '\'' | '"' | '\\' => [c]
  | 'n' => ['\n']
  | 'r' => ['\r']
  | 't' => ['\t']
  | _ => ['\\', c]

/-- Reads a string literal after its opening quote, which stood at `start`; the characters read so far come last
first. -/
def stringBody (quote : Char) (start : Nat) : (read : List Char) → Nat → List Char → Except Error String × Cursor
  | _, position, [] => (.error (.lex start quote .unterminatedString), ⟨[], position⟩)
  | read, position, c :: rest =>
    if c = quote then (.ok (String.ofList read.reverse), ⟨rest, position + 1⟩)
    else if c = '\\' then
      match rest with
      | [] => (.error (.lex start quote .unterminatedString), ⟨[], position + 1⟩)
      | 'u' :: tail =>
        let badEscape := (.error (.lex position '\\' .badUnicodeEscape),
          (⟨tail, position + 2⟩ : Cursor).advance ((tail.take 4).takeWhile Text.isHexDigit).length)
        match tail with
        | h₁ :: h₂ :: h₃ :: h₄ :: more =>
          match Text.hexValue? [h₁, h₂, h₃, h₄] with
          | none => badEscape
          | some code =>
            match Text.charOfCode? code with
            | none => (.error (.lex position '\\' .noSuchCharacter), ⟨more, position + 6⟩)
            | some meaning => stringBody quote start (meaning :: read) (position + 6) more
        | _ => badEscape
      | e :: tail => stringBody quote start ((escapeMeaning e).reverse ++ read) (position + 2) tail
    else stringBody quote start (c :: read) (position + 1) rest

/-- The fraction of a number, with its point, if at least one digit follows the point. -/
def fractionPart : List Char → List Char
  | '.' :: d :: rest => if d.isDigit then '.' :: (d :: rest).takeWhile Char.isDigit else []
  | _ => []

/-- The exponent of a number, with its letter and sign, if at least one digit is there. -/
def exponentPart : List Char → List Char
  | e :: rest =>
    if e = 'e' ∨ e = 'E' then
      match rest with
      | sign :: d :: more =>
        if sign = '+' ∨ sign = '-' then
          if d.isDigit then e :: sign :: (d :: more).takeWhile Char.isDigit else []
        else if sign.isDigit then e :: (sign :: d :: more).takeWhile Char.isDigit else []
      | [d] => if d.isDigit then [e, d] else []
      | [] => []
    else []
  | [] => []

/-- Reads a number, its sign included, that starts at the cursor. Integers keep their digits; floats are written
anew as their shortest text. -/
def number (start : Cursor) : Except Error String × Cursor :=
  let first := start.rest.headD '-'
  let sign := if first = '-' then ['-'] else []
  let afterSign := start.rest.drop sign.length
  let digits := afterSign.takeWhile Char.isDigit
  let afterDigits := afterSign.drop digits.length
  let fraction := fractionPart afterDigits
  let afterFraction := afterDigits.drop fraction.length
  let exponent := exponentPart afterFraction
  let text := sign ++ digits ++ fraction ++ exponent
  let isFloat := !fraction.isEmpty || !exponent.isEmpty
  let body := start.advance text.length
  let (forceFloat, stop) := match body.rest with
    | c :: _ =>
      if (c = 'L' ∨ c = 'l') ∧ !isFloat then (false, body.advance 1)
      else if c = 'f' ∨ c = 'F' ∨ c = 'd' ∨ c = 'D' then (true, body.advance 1)
      else (false, body)
    | [] => (false, body)
  match stop.rest.head?.filter fun c => Text.isAlphanumeric c || c == '_' with
  | some c => (.error (.lex stop.position c .badNumber), stop)
  | none =>
    if isFloat || forceFloat then
      match Decimal.readFloat? text with
      | none => (.error (.lex start.position first .badNumber), stop)
      | some x =>
        if (FloatParts.ofFloat x).isFinite then (.ok (Decimal.floatText x), stop)
        else (.error (.lex start.position first .floatOutOfRange), stop)
    else if (Decimal.readInt64? text).isSome then (.ok (String.ofList text), stop)
    else (.error (.lex start.position first .integerOutOfRange), stop)

/-- Whether `c` can stand in the dotted part of an identifier. -/
def isIdentifierChar (c : Char) : Bool :=
  Text.isAlphanumeric c || c == '_' || c == '.'

/-- An accessor `[digits]`, `['text']` or `["text"]` at the start of the text, brackets included. -/
def accessor? : List Char → Option (List Char)
  | '[' :: first :: rest =>
    let inner? : Option (List Char) :=
      if first = '\'' ∨ first = '"' then
        let text := rest.takeWhile (· ≠ first)
        if text.length < rest.length then some (first :: text ++ [first]) else none
      else if first.isDigit then some (first :: rest.takeWhile Char.isDigit)
      else none
    inner?.bind fun inner =>
      if (first :: rest)[inner.length]? = some ']' then some ('[' :: inner ++ [']']) else none
  | _ => none

/-- All accessors at the start of the text. -/
def accessors : (fuel : Nat) → List Char → List Char
  | 0, _ => []
  | fuel + 1, cs =>
    match accessor? cs with
    | some segment => segment ++ accessors fuel (cs.drop segment.length)
    | none => []

/-- The identifier at the start of the text: letters, digits, underscores and dots, then accessors. -/
def identifier (cs : List Char) : List Char :=
  let dotted := cs.takeWhile isIdentifierChar
  let rest := cs.drop dotted.length
  dotted ++ accessors rest.length rest

/-- The canonical spelling of a word operator. -/
def wordOperator? (word : String) : Option String :=
  match Text.toLowerAscii word with
  | "and" => some "&&"
  | "or" => some "||"
  | "not" => some "!"
  | "in" => some "in"
  | "exists" => some "exists"
  | _ => none

/-- The kind of a token of one character that stands for itself. -/
def punctuation? : Char → Option TokenKind
  | '(' => some .lparen
  | ')' => some .rparen
  | '[' => some .lbracket
  | ']' => some .rbracket
  | '\x7b' => some .lbrace
  | '\x7d' => some .rbrace
  | ',' => some .comma
  | ':' => some .colon
  | '+' | '-' | '*' | '/' | '%' | '?' => some .operator
  | _ => none

/-- Reads the token at the cursor, where neither a blank nor a comment stands. -/
def scan (afterOperand : Bool) (here : Cursor) : Except Error Token × Cursor :=
  let position := here.position
  let take (kind : TokenKind) (text : List Char) : Except Error Token × Cursor :=
    (.ok ⟨kind, String.ofList text, position⟩, here.advance text.length)
  let literal (kind : TokenKind) (result : Except Error String × Cursor) : Except Error Token × Cursor :=
    (result.1.map fun text => ⟨kind, text, position⟩, result.2)
  match here.rest with
  | [] => (.ok (.eof position), here)
  | c :: rest =>
    let next := rest.head?
    if c = '\'' ∨ c = '"' then literal .string (stringBody c position [] (position + 1) rest)
    else if c.isDigit then literal .number (number here)
    else if c = '-' ∧ !afterOperand ∧ next.any Char.isDigit then literal .number (number here)
    else if Text.isAlphabetic c || c == '_' then
      let word := identifier here.rest
      let text := String.ofList word
      match wordOperator? text with
      | some op => (.ok ⟨.operator, op, position⟩, here.advance word.length)
      | none => (.ok ⟨.identifier, text, position⟩, here.advance word.length)
    else match punctuation? c with
      | some kind => take kind [c]
      | none =>
        if c = '=' then
          if next = some '=' then take .operator ['=', '=']
          else (.error (.lex position c .loneEquals), here)
        else if c = '!' ∨ c = '<' ∨ c = '>' then
          if next = some '=' then take .operator [c, '='] else take .operator [c]
        else if c = '&' ∨ c = '|' then
          if next = some c then take .operator [c, c]
          else (.error (.lex position c (.notDoubled c)), here)
        else (.error (.lex position c .badCharacter), here)

/-- The next token or error, and the lexer after it. -/
def next (l : Lexer) : Except Error Token × Lexer :=
  match skipGap .blank l.position l.rest with
  | (.error e, stop) => (.error e, { l with toCursor := stop })
  | (.ok (), here) =>
    match scan l.afterOperand here with
    | (.error e, stop) => (.error e, { l with toCursor := stop })
    | (.ok token, stop) => (.ok token, { toCursor := stop, afterOperand := token.endsOperand })

/-- All tokens up to the end of the input, which is the last of them, or the first error. -/
def tokens : (fuel : Nat) → Lexer → Except Error (List Token)
  | 0, _ => .ok []
  | fuel + 1, l =>
    match l.next with
    | (.error e, _) => .error e
    | (.ok token, l) =>
      if token.kind = .eof then .ok [token] else (tokens fuel l).map (token :: ·)

end Lexer

/-- The tokens of a source; the last is the end of the input, and every other takes at least one character. -/
def tokenize (source : String) : Except Error (List Token) :=
  let l := Lexer.ofSource source
  l.tokens (l.rest.length + 1)

end EventRules
