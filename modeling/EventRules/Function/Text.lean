import EventRules.Function.Arguments
import EventRules.Text.Casing

/-!
# Functions on text
-/

namespace EventRules.TextFunctions

open Arguments

/-- Applies a mapping to the text of the only argument; null stays null. -/
def mapText (function : String) (f : String → String) (args : List Value) : Except Error Value := do
  checkArity function args 1 (some 1)
  return ((text? (get args 0)).map fun s => .string (f s)).getD .null

/-- The number of characters, items or entries; null has none. -/
def length (args : List Value) : Except Error Value := do
  checkArity "LENGTH" args 1 (some 1)
  let count (n : Nat) : Value := .int (Int64.ofInt n)
  match get args 0 with
  | .null => return count 0
  | .string s => return count s.length
  | .list items => return count items.length
  | .map entries => return count entries.length
  | v => mismatch "LENGTH" 0 "string, list or map" v

/-- Whether a text, list or map is empty; null is. -/
def isEmpty (args : List Value) : Except Error Value := do
  checkArity "IS_EMPTY" args 1 (some 1)
  return .bool <| match get args 0 with
    | .null => true
    | .string s => s.isEmpty
    | .list items => items.isEmpty
    | .map entries => entries.isEmpty
    | _ => false

/-- Tests the text of the first argument against the second; null passes no test. -/
def affix (function : String) (test : String → String → Bool) (args : List Value) : Except Error Value := do
  checkArity function args 2 (some 2)
  match text? (get args 0), ← string? function args 1 with
  | some s, some t => return .bool (test s t)
  | _, _ => return .bool false

/-- The pieces of a text between the places of a delimiter, a comma if there is none. -/
def split (args : List Value) : Except Error Value := do
  checkArity "SPLIT" args 2 (some 2)
  match text? (get args 0) with
  | none => return .null
  | some s =>
    let delimiter := (← string? "SPLIT" args 1).getD ","
    return .list ((Text.split s delimiter).map .string)

/-- The texts of the items of a list with a delimiter between them; null items are left out. -/
def join (args : List Value) : Except Error Value := do
  checkArity "JOIN" args 2 (some 2)
  match get args 0 with
  | .null => return .null
  | .list items =>
    let delimiter := (← string? "JOIN" args 1).getD ""
    return .string (delimiter.intercalate (items.filterMap text?))
  | v => mismatch "JOIN" 0 "list" v

def catalog : List Builtin := [
  .ofArgs "TO_UPPER" "Transforms the first argument to an uppercase string"
    ["input - Value to transform"] "Uppercase string" (mapText "TO_UPPER" Text.toUpper),
  .ofArgs "TO_LOWER" "Transforms the first argument to a lowercase string"
    ["input - Value to transform"] "Lowercase string" (mapText "TO_LOWER" Text.toLower),
  .ofArgs "TRIM" "Trims whitespace from both sides of a string"
    ["input - String"] "String" (mapText "TRIM" Text.trim),
  .ofArgs "LENGTH" "Returns the length of a string, list or map"
    ["input - String, list or map"] "Integer" length,
  .ofArgs "IS_EMPTY" "Returns true if a string, list or map is empty or null"
    ["input - String, list or map"] "Boolean" isEmpty,
  .ofArgs "STARTS_WITH" "Determines whether a string starts with a prefix"
    ["string - The string to test", "prefix - The prefix"] "Boolean" (affix "STARTS_WITH" Text.startsWith),
  .ofArgs "ENDS_WITH" "Determines whether a string ends with a suffix"
    ["string - The string to test", "suffix - The suffix"] "Boolean" (affix "ENDS_WITH" Text.endsWith),
  .ofArgs "SPLIT" "Splits a string by a delimiter"
    ["input - String to split", "delim - Delimiter"] "List of strings" split,
  .ofArgs "JOIN" "Joins the non-null items of a list with a delimiter"
    ["list - Items to join", "delim - Delimiter"] "String" join]

end EventRules.TextFunctions
