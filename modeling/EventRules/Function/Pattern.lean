import EventRules.Function.Arguments
import EventRules.Regex.Replacement

/-!
# Functions on patterns

Matching, taking groups and replacing by regular expressions. A match is one of the whole text: the pattern is put
into a group between the two ends of the text. Only a replacement looks for the pattern anywhere.
-/

namespace EventRules.PatternFunctions

open Arguments Regex

/-- The pattern as a group between the ends of the text. -/
def wholeText (pattern : String) : String :=
  "\\A(?:" ++ pattern ++ ")\\z"

/-- The regular expression of a text, `pattern` being what the rule gave. -/
def compile (function pattern text : String) : Except Error Compiled :=
  match Compiled.ofText? text with
  | some r => .ok r
  | none => .error (.evaluation (.badPattern function pattern))

/-- Whether a pattern matches a whole text. -/
def isMatch (args : List Value) : Except Error Value := do
  checkArity "REGEXP_MATCH" args 2 (some 2)
  match text? (get args 0), ← string? "REGEXP_MATCH" args 1 with
  | some s, some pattern =>
    let r ← compile "REGEXP_MATCH" pattern (wholeText pattern)
    return .bool (r.find? s.toList).isSome
  | _, _ => return .bool false

/-- The text of a group, if the pattern matches a whole text that is not empty. -/
def groupValue (args : List Value) : Except Error Value := do
  checkArity "REGEXP_GROUP_VAL" args 3 (some 3)
  match text? (get args 0) with
  | none | some "" => return .null
  | some s =>
    let some pattern ← string? "REGEXP_GROUP_VAL" args 1 | return .null
    let some group ← int? "REGEXP_GROUP_VAL" args 2 | return .null
    let r ← compile "REGEXP_GROUP_VAL" pattern (wholeText pattern)
    if group < 0 then return .null
    let text := s.toList
    let span? := (r.find? text).bind (·.span? group.toNatClampNeg)
    return (span?.map fun span => .string (String.ofList (slice text.toArray span))).getD .null

/-- The text with every match of a pattern replaced. -/
def replace (args : List Value) : Except Error Value := do
  checkArity "REGEXP_REPLACE" args 3 (some 3)
  match text? (get args 0) with
  | none => return .null
  | some s =>
    match ← string? "REGEXP_REPLACE" args 1, ← string? "REGEXP_REPLACE" args 2 with
    | some pattern, some replacement =>
      let r ← compile "REGEXP_REPLACE" pattern pattern
      return .string (r.replaceAll s replacement)
    | _, _ => return .string s

def catalog : List Builtin := [
  .ofArgs "REGEXP_MATCH" "Determines whether a regex matches the whole string"
    ["string - The string to test", "pattern - The regex"]
    "True if the string matches the pattern, false otherwise" isMatch,
  .ofArgs "REGEXP_GROUP_VAL" "Returns the value of a capture group when the regex matches the whole string"
    ["string - The string to test", "pattern - The regex",
      "group - The capture group index (0 is the whole match)"]
    "The captured text, or null when there is no match or no such group" groupValue,
  .ofArgs "REGEXP_REPLACE" "Replaces every match of a regex"
    ["string - The input string", "pattern - The regex",
      "replacement - Replacement text; $1 style group references are expanded"]
    "The string with all matches replaced" replace]

end EventRules.PatternFunctions
