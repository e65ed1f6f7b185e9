/-!
# JSON documents

A document keeps what a JSON text says: integers apart from floats, and the members of an object in their order.
Writing a member keeps its place or goes last; removing one moves the last member into the freed place.
-/

namespace EventRules

/-- A JSON document. An integer is one that fits in 64 bits, signed or unsigned. -/
inductive Document where
  | null
  | bool (b : Bool)
  | integer (n : Int)
  | float (x : Float)
  | string (s : String)
  | array (items : List Document)
  | object (members : List (String × Document))
  deriving Inhabited

/-- The members of an object, in order. -/
abbrev Members := List (String × Document)

namespace Members

/-- The value under a key. -/
def get? (members : Members) (key : String) : Option Document :=
  members.lookup key

/-- Puts a value under a key: in place if the key is there, last if it is new. -/
def insert (members : Members) (key : String) (value : Document) : Members :=
  match members with
  | [] => [(key, value)]
  | (k, v) :: rest => if k = key then (key, value) :: rest else (k, v) :: insert rest key value

/-- Removes a key; the last member moves into the freed place. -/
def remove (members : Members) (key : String) : Members :=
  match members with
  | [] => []
  | (k, v) :: rest =>
    if k = key then
      match rest.getLast? with
      | none => []
      | some last => last :: rest.dropLast
    else (k, v) :: remove rest key

/-- The members of a list of pairs; a repeated key keeps its first place and its last value. -/
def ofPairs (pairs : List (String × Document)) : Members :=
  pairs.foldl (fun members pair => insert members pair.1 pair.2) []

end Members

namespace Document

/-- The members, if the document is an object. -/
def members? : Document → Option Members
  | .object members => some members
  | _ => none

/-- The text, if the document is a string. -/
def string? : Document → Option String
  | .string s => some s
  | _ => none

end Document

end EventRules
