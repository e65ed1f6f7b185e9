import EventRules.Json.Writer
import EventRules.Value.Basic

/-!
# Values and JSON

A value as a JSON document and back, and its text. Integers stay integers and floats floats. A float that is not
finite has no JSON form and becomes null; an integer beyond 64 signed bits has no integer value and becomes a float.
-/

namespace EventRules.Value

/-- The value of a JSON integer. -/
def ofInteger (n : Int) : Value :=
  if Int64.minValue.toInt ≤ n ∧ n ≤ Int64.maxValue.toInt then .int (Int64.ofInt n)
  else .float (FloatParts.nearest (n < 0) n.natAbs 1)

mutual

/-- The value of a document. -/
def ofDocument : Document → Value
  | .null => .null
  | .bool b => .bool b
  | .integer n => ofInteger n
  | .float x => .float x
  | .string s => .string s
  | .array items => .list (ofItems items)
  | .object members => .map (ofMembers [] members)

/-- The values of the items of an array. -/
def ofItems : List Document → List Value
  | [] => []
  | item :: rest => ofDocument item :: ofItems rest

/-- The entries of an object, added to those already there. -/
def ofMembers (entries : Entries) : List (String × Document) → Entries
  | [] => entries
  | (key, value) :: rest => ofMembers (Keyed.insert entries key (ofDocument value)) rest

end

mutual

/-- The document of a value. -/
def toDocument : Value → Document
  | .null => .null
  | .bool b => .bool b
  | .int n => .integer n.toInt
  | .float x => if (FloatParts.ofFloat x).isFinite then .float x else .null
  | .string s => .string s
  | .list items => .array (toItems items)
  | .map entries => .object (toMembers entries)

/-- The documents of the items of a list. -/
def toItems : List Value → List Document
  | [] => []
  | item :: rest => toDocument item :: toItems rest

/-- The members of a map. -/
def toMembers : Entries → List (String × Document)
  | [] => []
  | (key, value) :: rest => (key, toDocument value) :: toMembers rest

end

/-- The text of a value: a text as it is, lists and maps as JSON. -/
def text : Value → String
  | .null => "null"
  | .bool b => if b then "true" else "false"
  | .int n => toString n.toInt
  | .float x => Decimal.floatText x
  | .string s => s
  | .list items => (toDocument (.list items)).compact
  | .map entries => (toDocument (.map entries)).compact

end EventRules.Value
