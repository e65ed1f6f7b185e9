import EventRules.Function.Arguments

/-!
# Functions on lists and maps
-/

namespace EventRules.CollectionFunctions

open Arguments

/-- The list at the first argument; null is an empty list. -/
def listArgument (function : String) (args : List Value) : Except Error (List Value) :=
  match get args 0 with
  | .null => .ok []
  | .list items => .ok items
  | v => mismatch function 0 "list" v

/-- The item at an index, null outside the list. -/
def item (args : List Value) : Except Error Value := do
  checkArity "GET" args 2 (some 2)
  let items ← listArgument "GET" args
  match ← int? "GET" args 1 with
  | some n => return if n < 0 then .null else items[n.toInt.toNat]?.getD .null
  | none => return .null

/-- The first item, null of an empty list. -/
def first (args : List Value) : Except Error Value := do
  checkArity "GET_FIRST" args 1 (some 1)
  return (← listArgument "GET_FIRST" args).head?.getD .null

/-- The last item, null of an empty list. -/
def last (args : List Value) : Except Error Value := do
  checkArity "GET_LAST" args 1 (some 1)
  return (← listArgument "GET_LAST" args).getLast?.getD .null

/-- The list with an item added at its end. -/
def add (args : List Value) : Except Error Value := do
  checkArity "LIST_ADD" args 2 (some 2)
  return .list ((← listArgument "LIST_ADD" args) ++ [get args 1])

/-- The value under a key of a map, or else a default. -/
def mapGet (args : List Value) : Except Error Value := do
  checkArity "MAP_GET" args 2 (some 3)
  let default := get args 2
  match ← string? "MAP_GET" args 0 with
  | none => return default
  | some key =>
    match get args 1 with
    | .null => return default
    | .map entries => return (Keyed.get? entries key).getD default
    | v => mismatch "MAP_GET" 1 "map" v

/-- Whether a key is in a map; what is no map has no keys. -/
def mapHas (args : List Value) : Except Error Value := do
  checkArity "MAP_EXISTS" args 2 (some 2)
  match ← string? "MAP_EXISTS" args 0, get args 1 with
  | some key, .map entries => return .bool (Keyed.has entries key)
  | _, _ => return .bool false

def catalog : List Builtin := [
  .ofArgs "GET" "Returns the i'th element of the list"
    ["input - List", "i - The index (0-based)"] "First element of the list" item,
  .ofArgs "GET_FIRST" "Returns the first element of the list"
    ["input - List"] "First element of the list" first,
  .ofArgs "GET_LAST" "Returns the last element of the list"
    ["input - List"] "Last element of the list" last,
  .ofArgs "LIST_ADD" "Adds an element to a list"
    ["list - List to add element to", "element - Element to add"]
    "Resulting list with the item added at the end" add,
  .ofArgs "MAP_GET" "Gets the value associated with a key from a map"
    ["key - The key", "map - The map",
      "default - Optionally the default value to return if the key is not in the map"]
    "The object associated with the key in the map" mapGet,
  .ofArgs "MAP_EXISTS" "Checks for existence of a key in a map"
    ["key - The key to check for existence", "map - The map"] "True if the key is found in the map" mapHas]

end EventRules.CollectionFunctions
