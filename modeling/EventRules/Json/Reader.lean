import EventRules.Json.Number
import EventRules.Text.Hex

/-!
# Reading JSON

A strict reader of JSON texts. Arrays and objects nest at most 127 deep, numbers fit in a float, and a surrogate
escape comes as a pair. A value that is only passed over has its syntax checked and nothing else: such a reading is
not *exact*.
-/

namespace EventRules.Json

/-- How deep arrays and objects may nest. -/
def maxNesting : Nat := 127

/-- Whether `c` is one of the four blanks of JSON. -/
def isJsonBlank (c : Char) : Bool :=
  c = ' ' || c = '\n' || c = '\t' || c = '\r'

/-- The text without leading blanks. -/
def skipBlanks (cs : List Char) : List Char :=
  cs.dropWhile isJsonBlank

/-- The number written by four hexadecimal digits, and the rest. -/
def hex4? : List Char → Option (Nat × List Char)
  | a :: b :: c :: d :: rest => (Text.hexValue? [a, b, c, d]).map fun code => (code, rest)
  | _ => none

/-- The character that a one-letter escape stands for. -/
def shortEscape? : Char → Option Char
  | '"' => some '"'
  | '\\' => some '\\'
  | '/' => some '/'
  | 'b' => some (Char.ofNat 0x08)
  | 'f' => some (Char.ofNat 0x0C)
  | 'n' => some '\n'
  | 'r' => some '\r'
  | 't' => some '\t'
  | _ => none

/-- The character of an escape by code, after its `\u`: one code, or a pair of surrogates. -/
def codeEscape? (exact : Bool) (cs : List Char) : Option (Char × List Char) := do
  let (code, rest) ← hex4? cs
  if !exact then return (' ', rest)
  if 0xD800 ≤ code ∧ code < 0xDC00 then
    match rest with
    | '\\' :: 'u' :: rest =>
      let (low, rest) ← hex4? rest
      if 0xDC00 ≤ low ∧ low < 0xE000 then
        return (Char.ofNat (0x10000 + (code - 0xD800) * 0x400 + (low - 0xDC00)), rest)
      else none
    | _ => none
  else if Text.isSurrogate code then none
  else return (Char.ofNat code, rest)

/-- The rest of a string after its opening quote, the characters read so far coming last first. -/
def stringBody? (exact : Bool) : (fuel : Nat) → (read : List Char) → List Char → Option (String × List Char)
  | 0, _, _ => none
  | _, _, [] => none
  | _, read, '"' :: rest => some (String.ofList read.reverse, rest)
  | fuel + 1, read, '\\' :: 'u' :: rest =>
    match codeEscape? exact rest with
    | some (c, rest) => stringBody? exact fuel (c :: read) rest
    | none => none
  | fuel + 1, read, '\\' :: e :: rest =>
    match shortEscape? e with
    | some c => stringBody? exact fuel (c :: read) rest
    | none => none
  | fuel + 1, read, c :: rest =>
    if c = '\\' ∨ c.toNat < 0x20 then none else stringBody? exact fuel (c :: read) rest

/-- A string after its opening quote. -/
def string? (exact : Bool) (cs : List Char) : Option (String × List Char) :=
  stringBody? exact (cs.length + 1) [] cs

/-- The digits before the point: a zero alone, or digits that do not start with zero. -/
def whole? (cs : List Char) : Option (List Char × List Char) :=
  match cs.span Char.isDigit with
  | ([], _) => none
  | (['0'], rest) => some (['0'], rest)
  | ('0' :: _, _) => none
  | (digits, rest) => some (digits, rest)

/-- A point and at least one digit, if a point comes next. -/
def fraction? : List Char → Option (Option (List Char) × List Char)
  | '.' :: rest =>
    match rest.span Char.isDigit with
    | ([], _) => none
    | (digits, rest) => some (some digits, rest)
  | cs => some (none, cs)

/-- An exponent with at least one digit, if the letter of an exponent comes next. -/
def exponent? : List Char → Option (Option Int × List Char)
  | [] => some (none, [])
  | c :: rest =>
    if c = 'e' ∨ c = 'E' then
      let (negative, rest) := Decimal.splitSign rest
      match rest.span Char.isDigit with
      | ([], _) => none
      | (digits, rest) =>
        let n : Int := Decimal.digitsValue digits
        some (some (if negative then -n else n), rest)
    else some (none, c :: rest)

/-- A number. -/
def number? (exact : Bool) (cs : List Char) : Option (Document × List Char) := do
  let (negative, cs) := match cs with
    | '-' :: rest => (true, rest)
    | cs => (false, cs)
  let (whole, cs) ← whole? cs
  let (fraction, cs) ← fraction? cs
  let (exponent, cs) ← exponent? cs
  let text : NumberText := { negative, whole, fraction, exponent }
  if exact then return (← text.document?, cs) else return (.null, cs)

/-- Comma-separated items up to the closing bracket; `item` reads one. -/
def items? (item : List Char → Option (Document × List Char)) :
    (fuel : Nat) → List Char → Option (List Document × List Char)
  | 0, _ => none
  | fuel + 1, cs => do
    let (first, cs) ← item (skipBlanks cs)
    match skipBlanks cs with
    | ']' :: rest => return ([first], rest)
    | ',' :: rest =>
      let (others, rest) ← items? item fuel rest
      return (first :: others, rest)
    | _ => none

/-- The key of a member and the colon after it. -/
def key? (exact : Bool) (cs : List Char) : Option (String × List Char) :=
  match skipBlanks cs with
  | '"' :: rest => do
    let (key, rest) ← string? exact rest
    match skipBlanks rest with
    | ':' :: rest => return (key, skipBlanks rest)
    | _ => none
  | _ => none

/-- Comma-separated members up to the closing brace; `item` reads the value under a key. -/
def members? (exact : Bool) (item : String → List Char → Option (Document × List Char)) :
    (fuel : Nat) → List Char → Option (List (String × Document) × List Char)
  | 0, _ => none
  | fuel + 1, cs => do
    let (key, cs) ← key? exact cs
    let (value, cs) ← item key cs
    match skipBlanks cs with
    | '}' :: rest => return ([(key, value)], rest)
    | ',' :: rest =>
      let (others, rest) ← members? exact item fuel rest
      return ((key, value) :: others, rest)
    | _ => none

/-- The text after a word, if it starts with the word. -/
def word? (word : String) (meaning : Document) (cs : List Char) : Option (Document × List Char) :=
  if word.toList.isPrefixOf cs then some (meaning, cs.drop word.length) else none

/-- A value at the start of the text, in which arrays and objects nest at most `room` deep. -/
def value? (exact : Bool) (room : Nat) (cs : List Char) : Option (Document × List Char) :=
  match cs with
  | '"' :: rest => (string? exact rest).map fun (s, rest) => (.string s, rest)
  | '[' :: rest =>
    match room with
    | 0 => none
    | room + 1 =>
      match skipBlanks rest with
      | ']' :: rest => some (.array [], rest)
      | rest => (items? (value? exact room) rest.length rest).map fun (items, rest) => (.array items, rest)
  | '{' :: rest =>
    match room with
    | 0 => none
    | room + 1 =>
      match skipBlanks rest with
      | '}' :: rest => some (.object [], rest)
      | rest =>
        (members? exact (fun _ => value? exact room) rest.length rest).map fun (pairs, rest) =>
          (.object (Members.ofPairs pairs), rest)
  | 'n' :: _ => word? "null" .null cs
  | 't' :: _ => word? "true" (.bool true) cs
  | 'f' :: _ => word? "false" (.bool false) cs
  | _ => number? exact cs

/-- What was read, if only blanks follow it. -/
def complete? {α : Type} : Option (α × List Char) → Option α
  | some (value, rest) => if (skipBlanks rest).isEmpty then some value else none
  | none => none

/-- The pairs of an object in the order of the text, repeated keys included. Under the keys that are not `known`
the values are only passed over. -/
def objectPairs? (known : String → Bool) (text : String) : Option (List (String × Document)) :=
  match skipBlanks text.toList with
  | '{' :: rest =>
    match skipBlanks rest with
    | '}' :: rest => complete? (some ([], rest))
    | rest =>
      let item (key : String) (cs : List Char) :=
        if known key then value? true (maxNesting - 1) cs else value? false cs.length cs
      complete? (members? true item rest.length rest)
  | _ => none

/-- The document of a JSON text. -/
def parse? (text : String) : Option Document :=
  complete? (value? true maxNesting (skipBlanks text.toList))

end EventRules.Json
