import EventRules.Text.Hex

/-!
# Texts, keys and blanks in TOML

Each reader takes the characters that are left and gives what it read with the characters after it. Texts stand in
double quotes, with escapes, or in single quotes, without; three quotes open a text of several lines.
-/

namespace EventRules.Toml

/-- Whether `c` is a blank within a line. -/
def isSpace (c : Char) : Bool :=
  c = ' ' || c = '\t'

/-- The characters without leading blanks. -/
def skipSpaces (cs : List Char) : List Char :=
  cs.dropWhile isSpace

/-- Whether `c` may stand in a comment or a text: no control character but the tab. -/
def isContent (c : Char) : Bool :=
  c = '\t' || ' ' ≤ c && c ≠ Char.ofNat 0x7F

/-- The characters after a line end. -/
def lineEnd? : List Char → Option (List Char)
  | '\n' :: rest => some rest
  | '\r' :: '\n' :: rest => some rest
  | _ => none

/-- The characters after a comment, if one comes next. -/
def skipComment : List Char → List Char
  | '#' :: rest => rest.dropWhile isContent
  | cs => cs

/-- The characters after blanks, a comment and the end of the line or of the input. -/
def finishLine? (cs : List Char) : Option (List Char) :=
  match skipComment (skipSpaces cs) with
  | [] => some []
  | cs => lineEnd? cs

/-- The characters after blanks, comments and line ends, at most `fuel` lines of them. -/
def skipLines (fuel : Nat) (cs : List Char) : List Char :=
  let cs := skipSpaces cs
  match fuel, lineEnd? (skipComment cs) with
  | fuel + 1, some rest => skipLines fuel rest
  | _, _ => cs

/-- The characters after blanks and line ends, at most `fuel` lines of them. -/
def skipEmptyLines (fuel : Nat) (cs : List Char) : List Char :=
  let cs := skipSpaces cs
  match fuel, lineEnd? cs with
  | fuel + 1, some rest => skipEmptyLines fuel rest
  | _, _ => cs

/-! ## Texts -/

/-- The character of a code with the given number of hexadecimal digits. -/
def codeEscape? (digits : Nat) (cs : List Char) : Option (Char × List Char) := do
  if cs.length < digits then none
  else
    let code ← Text.hexValue? (cs.take digits)
    return (← Text.charOfCode? code, cs.drop digits)

/-- The character of an escape, after its backslash. -/
def escape? : List Char → Option (Char × List Char)
  | 'b' :: rest => some (Char.ofNat 0x08, rest)
  | 't' :: rest => some ('\t', rest)
  | 'n' :: rest => some ('\n', rest)
  | 'f' :: rest => some (Char.ofNat 0x0C, rest)
  | 'r' :: rest => some ('\r', rest)
  | '"' :: rest => some ('"', rest)
  | '\\' :: rest => some ('\\', rest)
  | 'u' :: rest => codeEscape? 4 rest
  | 'U' :: rest => codeEscape? 8 rest
  | _ => none

/-- What is read of a text, the latest character first, made a string. -/
def readText (read : List Char) : String :=
  String.ofList read.reverse

/-- The rest of a text in double quotes on one line. -/
def basicBody? : (fuel : Nat) → (read : List Char) → List Char → Option (String × List Char)
  | _, read, '"' :: rest => some (readText read, rest)
  | fuel + 1, read, '\\' :: rest =>
    match escape? rest with
    | some (c, rest) => basicBody? fuel (c :: read) rest
    | none => none
  | fuel + 1, read, c :: rest => if isContent c then basicBody? fuel (c :: read) rest else none
  | _, _, _ => none

/-- The rest of a text in single quotes on one line. -/
def literalBody? (cs : List Char) : Option (String × List Char) :=
  match cs.span fun c => isContent c && c ≠ '\'' with
  | (content, '\'' :: rest) => some (String.ofList content, rest)
  | _ => none

/-- The rest of a text of several lines, whose quotes are `quote`. Up to two quotes may stand in it, also right
before the three that close it. With `escapes`, a backslash starts an escape, and one at the end of a line joins it
with the next line that is not empty. -/
def linesBody? (quote : Char) (escapes : Bool) :
    (fuel : Nat) → (read : List Char) → List Char → Option (String × List Char)
  | 0, _, _ => none
  | _, _, [] => none
  | fuel + 1, read, c :: rest =>
    if c = quote then
      let count := ((c :: rest).takeWhile (· = quote)).length
      if count < 3 then linesBody? quote escapes fuel (c :: read) rest
      else
        let inside := min (count - 3) 2
        some (readText (List.replicate inside quote ++ read), (c :: rest).drop (inside + 3))
    else if c = '\\' && escapes then
      match escape? rest, lineEnd? (skipSpaces rest) with
      | some (e, rest), _ => linesBody? quote escapes fuel (e :: read) rest
      | none, some rest => linesBody? quote escapes fuel read (skipEmptyLines rest.length rest)
      | none, none => none
    else
      match lineEnd? (c :: rest) with
      | some rest => linesBody? quote escapes fuel ('\n' :: read) rest
      | none => if isContent c then linesBody? quote escapes fuel (c :: read) rest else none

/-- A text of several lines after its opening quotes; a line end right after them does not count. -/
def linesText? (quote : Char) (escapes : Bool) (cs : List Char) : Option (String × List Char) :=
  linesBody? quote escapes (cs.length + 1) [] ((lineEnd? cs).getD cs)

/-- A text on one line. -/
def lineText? : List Char → Option (String × List Char)
  | '"' :: rest => basicBody? rest.length [] rest
  | '\'' :: rest => literalBody? rest
  | _ => none

/-- A text of any form. -/
def text? : List Char → Option (String × List Char)
  | '"' :: '"' :: '"' :: rest => linesText? '"' true rest
  | '\'' :: '\'' :: '\'' :: rest => linesText? '\'' false rest
  | cs => lineText? cs

/-! ## Keys -/

/-- Whether `c` may stand in a key without quotes. -/
def isBareKeyChar (c : Char) : Bool :=
  c.isAlphanum || c = '_' || c = '-'

/-- One part of a key, between blanks. -/
def keyPart? (cs : List Char) : Option (String × List Char) :=
  let cs := skipSpaces cs
  let part := match cs.span isBareKeyChar with
    | ([], _) => lineText? cs
    | (bare, rest) => some (String.ofList bare, rest)
  part.map fun (key, rest) => (key, skipSpaces rest)

/-- The parts of a key with points between them, at most `fuel` of them. -/
def key? : (fuel : Nat) → List Char → Option (List String × List Char)
  | 0, _ => none
  | fuel + 1, cs => do
    let (part, rest) ← keyPart? cs
    match rest with
    | '.' :: rest =>
      let (parts, rest) ← key? fuel rest
      return (part :: parts, rest)
    | rest => return ([part], rest)

end EventRules.Toml
