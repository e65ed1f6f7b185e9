import EventRules.Settings.Setting

/-!
# Paths to settings

A path such as `engine.max_depth` or `hosts[0].name` leads from the table of all settings to one of them. Putting a
setting at a path makes the tables and lists on the way.
-/

namespace EventRules.Setting

/-- A step of a path. -/
inductive Step where
  | key (name : String)
  /-- An item of a list; a negative number counts from the end. -/
  | item (index : Int)
  deriving DecidableEq, Repr

/-- A path: the key in the outermost table, then further steps. -/
structure Path where
  root : String
  steps : List Step
  deriving DecidableEq, Repr

namespace Path

/-- Whether `c` may stand in a key of a path. -/
def isKeyChar (c : Char) : Bool :=
  c.isAlphanum || c = ' ' || c = '_' || c = '-'

/-- A key and the rest. -/
def key? (cs : List Char) : Option (String × List Char) :=
  match cs.span isKeyChar with
  | ([], _) => none
  | (key, rest) => some (String.ofList key, rest)

/-- The number of an item between brackets, after the opening one, and the rest. -/
def index? (cs : List Char) : Option (Int × List Char) :=
  match cs.span (· ≠ ']') with
  | (inner, ']' :: rest) =>
    let isSpace (c : Char) : Bool := c = ' ' || c = '\t'
    let digits := ((inner.dropWhile isSpace).reverse.dropWhile isSpace).reverse
    if digits.head? = some '+' then none
    else (Decimal.readInt64? digits).map fun n => (n.toInt, rest)
  | _ => none

/-- The steps that a text writes, at most `fuel` of them. -/
def steps? : (fuel : Nat) → List Char → Option (List Step)
  | _, [] => some []
  | fuel + 1, '.' :: rest => do
    let (key, rest) ← key? rest
    return .key key :: (← steps? fuel rest)
  | fuel + 1, '[' :: rest => do
    let (index, rest) ← index? rest
    return .item index :: (← steps? fuel rest)
  | _, _ => none

/-- The path that a text writes; a text that writes none is a single key. -/
def ofText (text : String) : Path :=
  let path? : Option Path := do
    let (root, rest) ← key? text.toList
    return ⟨root, ← steps? rest.length rest⟩
  path?.getD ⟨text, []⟩

end Path

/-- The place of an item in a list of the given length; a negative place before the start is the start. -/
def place (index : Int) (length : Nat) : Nat :=
  if 0 ≤ index then index.toNat else (length + index).toNat

/-- A list with an item put into it; empty lists fill the places before it. -/
def putItem (items : List Setting) (index : Nat) (item : Setting) : List Setting :=
  (items ++ List.replicate (index + 1 - items.length) (Setting.list [])).set index item

/-- What stands in a place after a setting is put where the steps lead from there. -/
def putAt (setting : Setting) (before : Option Setting) : List Step → Setting
  | [] => mergeInto before setting
  | .key name :: rest =>
    let key := Text.toLower name
    let old := (before.getD .nothing).entries
    .table (Keyed.insert old key (putAt setting (Keyed.get? old key) rest))
  | .item index :: rest =>
    let old := match before with
      | some (.list items) => items
      | _ => []
    let i := place index old.length
    let inner := match rest with
      | [] => setting
      | _ => putAt setting (some (old[i]?.getD (Setting.list []))) rest
    .list (putItem old i inner)

/-- All settings with one of them put at a path. -/
def put (all : Setting) (path : Path) (setting : Setting) : Setting :=
  putAt setting (some all) (.key path.root :: path.steps)

end EventRules.Setting
