import EventRules.Toml.Number
import EventRules.Toml.Table
import EventRules.Toml.Text

/-!
# Reading TOML

A document is a list of statements, one a line: a header opens a table, and a key with a value adds to the table
opened last. Arrays may go over several lines.
-/

namespace EventRules.Toml

/-- How deep arrays and inline tables may nest. -/
def maxNesting : Nat := 79

/-- How many parts a key may have. -/
def maxKeyParts : Nat := 79

/-- The characters after a word, if it comes next. -/
def word? (word : String) (meaning : Setting) (cs : List Char) : Option (Setting × List Char) :=
  if word.toList.isPrefixOf cs then some (meaning, cs.drop word.length) else none

/-- The items of an array up to its closing bracket; `item` reads one. A comma may stand after the last. -/
def items? (item : List Char → Option (Setting × List Char)) :
    (fuel : Nat) → List Char → Option (List Setting × List Char)
  | 0, _ => none
  | fuel + 1, cs =>
    match skipLines cs.length cs with
    | ']' :: rest => some ([], rest)
    | cs => do
      let (first, cs) ← item cs
      match skipLines cs.length cs with
      | ']' :: rest => return ([first], rest)
      | ',' :: rest =>
        let (others, rest) ← items? item fuel rest
        return (first :: others, rest)
      | _ => none

/-- A key, an equals sign and a value; `value` reads the last. -/
def pair? (value : List Char → Option (Setting × List Char)) (cs : List Char) :
    Option ((List String × Setting) × List Char) := do
  let (key, cs) ← key? maxKeyParts cs
  match cs with
  | '=' :: rest =>
    let (setting, rest) ← value (skipSpaces rest)
    return ((key, setting), rest)
  | _ => none

/-- The pairs of an inline table up to its closing brace; `value` reads a value. -/
def pairs? (value : List Char → Option (Setting × List Char)) :
    (fuel : Nat) → List Char → Option (List (List String × Setting) × List Char)
  | 0, _ => none
  | fuel + 1, cs => do
    let (first, cs) ← pair? value cs
    match skipSpaces cs with
    | '\x7d' :: rest => return ([first], rest)
    | ',' :: rest =>
      let (others, rest) ← pairs? value fuel rest
      return (first :: others, rest)
    | _ => none

/-- A value, in which arrays and inline tables nest at most `room` deep. -/
def value? (room : Nat) (cs : List Char) : Option (Setting × List Char) :=
  match cs with
  | '[' :: rest =>
    match room with
    | 0 => none
    | room + 1 => (items? (value? room) (rest.length + 1) rest).map fun (items, rest) => (.list items, rest)
  | '\x7b' :: rest =>
    match room with
    | 0 => none
    | room + 1 =>
      match skipSpaces rest with
      | '\x7d' :: rest => some (.table [], rest)
      | rest => do
        let (pairs, rest) ← pairs? (value? room) rest.length rest
        return (.table (settingsOf (← Nodes.ofPairs? pairs)), rest)
  | 't' :: _ => word? "true" (.boolean true) cs
  | 'f' :: _ => word? "false" (.boolean false) cs
  | '"' :: _ | '\'' :: _ => (text? cs).map fun (s, rest) => (.text s, rest)
  | _ => (momentText? cs).or (number? cs)

/-- A line of a document. -/
inductive Statement where
  | table (path : List String)
  | item (path : List String)
  | pair (key : List String) (setting : Setting)
  deriving Inhabited

/-- A statement, not yet the end of its line. -/
def statement? : List Char → Option (Statement × List Char)
  | '[' :: '[' :: rest => do
    match ← key? maxKeyParts rest with
    | (path, ']' :: ']' :: rest) => return (.item path, rest)
    | _ => none
  | '[' :: rest => do
    match ← key? maxKeyParts rest with
    | (path, ']' :: rest) => return (.table path, rest)
    | _ => none
  | cs => (pair? (value? maxNesting) cs).map fun (pair, rest) => (.pair pair.1 pair.2, rest)

/-- The statements of a document. -/
def statements? : (fuel : Nat) → List Char → Option (List Statement)
  | 0, _ => none
  | fuel + 1, cs =>
    match skipLines cs.length cs with
    | [] => some []
    | '#' :: rest => if (rest.dropWhile isContent).isEmpty then some [] else none
    | cs => do
      let (first, cs) ← statement? cs
      return first :: (← statements? fuel (← finishLine? cs))

/-- What is read of a document: its nodes, and the path of the table opened last. -/
structure Progress where
  nodes : Nodes := []
  table : List String := []

/-- Takes in a statement. -/
def Progress.step? (p : Progress) : Statement → Option Progress
  | .table path => (Nodes.openTable path p.nodes).map fun nodes => { nodes, table := path }
  | .item path => (Nodes.openItem path p.nodes).map fun nodes => { nodes, table := path }
  | .pair key setting => (Nodes.assignAt p.table key setting p.nodes).map fun nodes => { p with nodes }

/-- The entries of the document that a text writes. -/
def parse? (text : String) : Option (List (String × Setting)) := do
  let cs := match text.toList with
    | '\ufeff' :: rest => rest
    | cs => cs
  let statements ← statements? (cs.length + 1) cs
  let p ← statements.foldlM Progress.step? {}
  return settingsOf p.nodes

end EventRules.Toml
