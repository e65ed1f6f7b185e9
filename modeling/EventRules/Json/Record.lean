import EventRules.Json.Reader

/-!
# Records in JSON

A record with named fields is written as an object, in which unknown members are passed over, or as an array of the
first fields in order. Fields may be missing.
-/

namespace EventRules.Json

/-- The values of the fields, in order; what is missing has none. -/
abbrev FieldValues := List (Option Document)

/-- The fields of an array: it may be shorter than the list of fields but not longer. -/
def positionalFields? (fields : List String) (items : List Document) : Option FieldValues :=
  if items.length ≤ fields.length then
    some (items.map some ++ List.replicate (fields.length - items.length) none)
  else none

/-- The fields among the pairs of an object, of which none may come twice. -/
def namedFields? (fields : List String) (pairs : List (String × Document)) : Option FieldValues :=
  if fields.all fun field => (pairs.filter (·.1 = field)).length ≤ 1 then
    some (fields.map fun field => pairs.lookup field)
  else none

/-- The fields of a record written as a document. -/
def recordOfDocument? (fields : List String) : Document → Option FieldValues
  | .object members => namedFields? fields members
  | .array items => positionalFields? fields items
  | _ => none

/-- The fields of a record written as a JSON text. -/
def recordOfText? (fields : List String) (text : String) : Option FieldValues :=
  match objectPairs? fields.contains text with
  | some pairs => namedFields? fields pairs
  | none =>
    match parse? text with
    | some (.array items) => positionalFields? fields items
    | _ => none

/-- A field of a record: its value, a default where it is missing, none where it is written wrongly. -/
def field? {α : Type} (default : α) (read? : Document → Option α) : Option Document → Option α
  | some d => read? d
  | none => some default

/-- A natural number that fits in 64 bits. -/
def size? : Document → Option Nat
  | .integer n => if 0 ≤ n ∧ n < Nat.pow 2 64 then some n.toNat else none
  | _ => none

/-- A number as a float. -/
def float? : Document → Option Float
  | .integer n => some (FloatParts.nearest (n < 0) n.natAbs 1)
  | .float x => some x
  | _ => none

/-- A boolean. -/
def bool? : Document → Option Bool
  | .bool b => some b
  | _ => none

end EventRules.Json
