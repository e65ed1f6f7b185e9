import EventRules.Settings.Setting

/-!
# Tables of a TOML document

While a document is read, its tables remember how they came about, because that decides what may still be added: a
table is opened by one header only, a key with points adds only to tables that such keys made, and a value is final.
-/

namespace EventRules.Toml

/-- How a table came about. -/
inductive Origin where
  /-- By the first parts of a key with points. -/
  | dotted
  /-- On the way to a table that was opened. -/
  | parent
  /-- By a header of its own, as an item of a list of tables, or as the table of the whole document. -/
  | opened
  deriving DecidableEq, Repr

/-- What stands under a key. -/
inductive Node where
  | value (setting : Setting)
  | table (origin : Origin) (entries : List (String × Node))
  /-- Tables opened by headers in double brackets. -/
  | tables (items : List (List (String × Node)))
  deriving Inhabited

/-- The nodes of a table by key. -/
abbrev Nodes := List (String × Node)

mutual

/-- The setting of a node. -/
def Node.setting : Node → Setting
  | .value setting => setting
  | .table _ nodes => .table (settingsOf nodes)
  | .tables items => .list (tableSettings items)

/-- The settings of the nodes of a table. -/
def settingsOf : List (String × Node) → List (String × Setting)
  | [] => []
  | (key, node) :: rest => (key, node.setting) :: settingsOf rest

/-- The settings of a list of tables. -/
def tableSettings : List (List (String × Node)) → List Setting
  | [] => []
  | item :: rest => .table (settingsOf item) :: tableSettings rest

end

namespace Nodes

/-- Puts a node under a key: in place if the key is there, last if it is new. -/
def put (nodes : Nodes) (key : String) (node : Node) : Nodes :=
  match nodes with
  | [] => [(key, node)]
  | (k, n) :: rest => if k = key then (key, node) :: rest else (k, n) :: put rest key node

/-- Changes the table that a path leads to from a table. Tables on the way are made where they are missing; a list of
tables leads to its last one. The parts of a key, which is `dotted`, do not lead through tables that were opened. -/
def change (dotted : Bool) (edit : Origin → Nodes → Option Nodes) :
    (path : List String) → Origin → Nodes → Option Nodes
  | [], origin, nodes => edit origin nodes
  | key :: path, _, nodes =>
    match nodes.lookup key with
    | none =>
      let origin : Origin := if dotted then .dotted else .parent
      (change dotted edit path origin []).map fun inner => put nodes key (.table origin inner)
    | some (.value _) => none
    | some (.table origin inner) =>
      if dotted && origin = .opened then none
      else (change dotted edit path origin inner).map fun inner => put nodes key (.table origin inner)
    | some (.tables items) =>
      (change dotted edit path .opened (items.getLast?.getD [])).map fun last =>
        put nodes key (.tables (items.dropLast ++ [last]))

/-- The last part of a path and those before it. -/
def splitLast? (path : List String) : Option (List String × String) :=
  path.getLast?.map fun last => (path.dropLast, last)

/-- Gives a value to a key of a table. A key with points ends in a table that such keys made, and a key without
points in none of them. -/
def assign (key : List String) (setting : Setting) (origin : Origin) (nodes : Nodes) : Option Nodes := do
  let (path, last) ← splitLast? key
  let edit (origin : Origin) (nodes : Nodes) : Option Nodes :=
    if decide (origin = .dotted) == path.isEmpty || (nodes.lookup last).isSome then none
    else some (put nodes last (.value setting))
  change true edit path origin nodes

/-- Opens the table of a header. -/
def openTable (path : List String) (nodes : Nodes) : Option Nodes := do
  let (path, last) ← splitLast? path
  let edit (_ : Origin) (nodes : Nodes) : Option Nodes :=
    match nodes.lookup last with
    | none => some (put nodes last (.table .opened []))
    | some (.table .parent inner) => some (put nodes last (.table .opened inner))
    | some _ => none
  change false edit path .opened nodes

/-- Opens a further table of the list that a header in double brackets names. -/
def openItem (path : List String) (nodes : Nodes) : Option Nodes := do
  let (path, last) ← splitLast? path
  let edit (_ : Origin) (nodes : Nodes) : Option Nodes :=
    match nodes.lookup last with
    | none => some (put nodes last (.tables [[]]))
    | some (.tables items) => some (put nodes last (.tables (items ++ [[]])))
    | some _ => none
  change false edit path .opened nodes

/-- Gives a value to a key of the table that a path leads to. -/
def assignAt (table key : List String) (setting : Setting) (nodes : Nodes) : Option Nodes :=
  change false (assign key setting) table .opened nodes

/-- The nodes of a table that is written by its keys and values alone. -/
def ofPairs? (pairs : List (List String × Setting)) : Option Nodes :=
  pairs.foldlM (fun nodes (key, setting) => assign key setting .opened nodes) []

end Nodes

end EventRules.Toml
