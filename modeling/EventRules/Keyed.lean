/-!
# Finite maps from texts

A map from texts is the list of its entries in increasing order of the keys, each key once. Inserting keeps it so.
-/

namespace EventRules

universe u

/-- The entries of a map, in increasing order of their keys. -/
abbrev Keyed (α : Type u) := List (String × α)

namespace Keyed

variable {α : Type u}

/-- The value under a key. -/
def get? (entries : Keyed α) (key : String) : Option α :=
  entries.lookup key

/-- Whether there is a value under a key. -/
def has (entries : Keyed α) (key : String) : Bool :=
  (get? entries key).isSome

/-- Puts a value under a key, at the key's place in the order. -/
def insert (entries : Keyed α) (key : String) (value : α) : Keyed α :=
  match entries with
  | [] => [(key, value)]
  | (k, v) :: rest =>
    if key < k then (key, value) :: (k, v) :: rest
    else if key = k then (key, value) :: rest
    else (k, v) :: insert rest key value

/-- The map of a list of pairs; of a repeated key the last value counts. -/
def ofPairs (pairs : List (String × α)) : Keyed α :=
  pairs.foldl (fun entries pair => insert entries pair.1 pair.2) []

/-- The keys, in increasing order. -/
def keys (entries : Keyed α) : List String :=
  entries.map (·.1)

/-- The values, in the order of their keys. -/
def values (entries : Keyed α) : List α :=
  entries.map (·.2)

end Keyed

end EventRules
