import EventRules.Decimal.Reader
import EventRules.Regex.Match
import EventRules.Regex.Size
import EventRules.Regex.Syntax

/-!
# Compiled expressions

A regular expression ready to be matched: its program and the names of its groups.
-/

namespace EventRules.Regex

/-- A regular expression that can be matched. -/
structure Compiled where
  program : Program
  groups : List (Option String)

namespace Compiled

/-- The regular expression that a text writes, unless its program would be too large. -/
def ofText? (text : String) : Option Compiled := do
  let pattern ← Pattern.ofText? text
  if sizeLimit < pattern.expr.size then none
  else some { program := .ofExpr pattern.expr, groups := pattern.groups }

/-- The first match in a text. -/
def find? (r : Compiled) (text : List Char) : Option Match :=
  r.program.search none 0 text

/-- All matches in a text, left to right. -/
def findAll (r : Compiled) (text : List Char) : List Match :=
  r.program.findAll none (text.length + 2) none 0 text

/-- The number of the group with a name. -/
def groupNamed? (r : Compiled) (name : String) : Option Nat :=
  (r.groups.findIdx? (· == some name)).map (· + 1)

end Compiled

/-- The characters between two places of a text. -/
def slice (text : Array Char) (span : Nat × Nat) : List Char :=
  (text.extract span.1 span.2).toList

end EventRules.Regex
