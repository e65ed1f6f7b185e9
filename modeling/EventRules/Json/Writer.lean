import EventRules.Decimal.Layout
import EventRules.Json.Document
import EventRules.Text.Hex

/-!
# Writing JSON

Two forms of a document: compact, without any blank, and indented, with one member or item on a line.
-/

namespace EventRules

namespace Json

/-- How a character is written inside quotes: the quote, the backslash and control characters are escaped. -/
def escapeChar (c : Char) : List Char :=
  match c with
  | '"' => ['\\', '"']
  | '\\' => ['\\', '\\']
  | '\n' => ['\\', 'n']
  | '\r' => ['\\', 'r']
  | '\t' => ['\\', 't']
  | c =>
    if c.toNat = 0x08 then ['\\', 'b']
    else if c.toNat = 0x0C then ['\\', 'f']
    else if c.toNat < 0x20 then ['\\', 'u', '0', '0', Text.hexChar (c.toNat / 16), Text.hexChar c.toNat]
    else [c]

/-- A text in quotes. -/
def quote (s : String) : String :=
  "\"" ++ String.ofList (s.toList.flatMap escapeChar) ++ "\""

/-- The text of a float; what is not finite is written as null. -/
def floatText (x : Float) : String :=
  (Decimal.Layout.json.finite? x).getD "null"

end Json

namespace Document

mutual

/-- The document without blanks. -/
def compact : Document → String
  | .null => "null"
  | .bool b => if b then "true" else "false"
  | .integer n => toString n
  | .float x => Json.floatText x
  | .string s => Json.quote s
  | .array items => "[" ++ compactItems items ++ "]"
  | .object members => "\x7b" ++ compactMembers members ++ "\x7d"

/-- Items with commas between them. -/
def compactItems : List Document → String
  | [] => ""
  | [item] => compact item
  | item :: rest => compact item ++ "," ++ compactItems rest

/-- Members with commas between them. -/
def compactMembers : List (String × Document) → String
  | [] => ""
  | [(key, value)] => Json.quote key ++ ":" ++ compact value
  | (key, value) :: rest => Json.quote key ++ ":" ++ compact value ++ "," ++ compactMembers rest

end

/-- A new line indented by two blanks a level. -/
def newLine (level : Nat) : String :=
  "\n" ++ String.ofList (List.replicate (2 * level) ' ')

mutual

/-- The document with one item or member on a line, starting at the given level. -/
def indented (level : Nat) : Document → String
  | .array (item :: items) =>
    "[" ++ newLine (level + 1) ++ indented (level + 1) item ++ indentedItems (level + 1) items ++
      newLine level ++ "]"
  | .object ((key, value) :: members) =>
    "\x7b" ++ newLine (level + 1) ++ Json.quote key ++ ": " ++ indented (level + 1) value ++
      indentedMembers (level + 1) members ++ newLine level ++ "\x7d"
  | document => compact document

/-- Further items, each after a comma and on a line of its own. -/
def indentedItems (level : Nat) : List Document → String
  | [] => ""
  | item :: rest => "," ++ newLine level ++ indented level item ++ indentedItems level rest

/-- Further members, each after a comma and on a line of its own. -/
def indentedMembers (level : Nat) : List (String × Document) → String
  | [] => ""
  | (key, value) :: rest =>
    "," ++ newLine level ++ Json.quote key ++ ": " ++ indented level value ++ indentedMembers level rest

end

/-- The document on several lines. -/
def pretty (document : Document) : String :=
  document.indented 0

end Document

end EventRules
