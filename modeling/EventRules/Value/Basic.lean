import EventRules.Keyed

/-!
# Values

What expressions compute with: null, booleans, 64-bit integers, floats, texts, lists and maps. The entries of a map
are sorted by key, each key once.
-/

namespace EventRules

/-- A value of the expression language. -/
inductive Value where
  | null
  | bool (b : Bool)
  | int (n : Int64)
  | float (x : Float)
  | string (s : String)
  | list (items : List Value)
  | map (entries : List (String × Value))
  deriving Inhabited, Repr

/-- The entries of a map of values. -/
abbrev Entries := Keyed Value

namespace Value

/-- The name of the type of a value in messages. -/
def typeName : Value → String
  | .null => "null"
  | .bool _ => "boolean"
  | .int _ => "integer"
  | .float _ => "float"
  | .string _ => "string"
  | .list _ => "list"
  | .map _ => "map"

/-- Whether the value is null. -/
def isNull : Value → Bool
  | .null => true
  | _ => false

/-- Whether the value is an integer or a float. -/
def isNumeric : Value → Bool
  | .int _ | .float _ => true
  | _ => false

/-- The boolean, if the value is one. -/
def bool? : Value → Option Bool
  | .bool b => some b
  | _ => none

/-- The integer, if the value is one. -/
def int? : Value → Option Int64
  | .int n => some n
  | _ => none

/-- The text, if the value is one. -/
def string? : Value → Option String
  | .string s => some s
  | _ => none

/-- The number as a float, if the value is a number; an integer is rounded to the nearest float. -/
def float? : Value → Option Float
  | .int n => some n.toFloat
  | .float x => some x
  | _ => none

end Value

end EventRules
