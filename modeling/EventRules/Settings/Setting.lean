import EventRules.Decimal.Layout
import EventRules.Decimal.Reader
import EventRules.Json.Document
import EventRules.Keyed
import EventRules.Text.Casing

/-!
# Settings

A setting is a scalar, a list or a table of settings. Tables are merged key by key; any other setting replaces what
was there. A scalar is taken for a number, a boolean or a text where one is wanted and it can be read so.
-/

namespace EventRules

/-- A value in the settings of the program. -/
inductive Setting where
  | nothing
  | boolean (b : Bool)
  | integer (n : Int)
  | float (x : Float)
  | text (s : String)
  | list (items : List Setting)
  | table (entries : List (String × Setting))
  deriving Inhabited

namespace Setting

/-- The entries of a table; other settings have none. -/
def entries : Setting → Keyed Setting
  | .table entries => entries
  | _ => []

mutual

/-- What stands in a place after a setting is put there: a table is merged into what was there before. Keys are in
lower case. -/
def mergeInto (before : Option Setting) : Setting → Setting
  | .table entries => mergeEntries (before.getD (.table [])) entries
  | setting => setting

/-- A setting with entries put into it; if there are any, it is a table afterwards. -/
def mergeEntries (target : Setting) : List (String × Setting) → Setting
  | [] => target
  | (key, setting) :: rest =>
    let key := Text.toLower key
    let old := target.entries
    mergeEntries (.table (Keyed.insert old key (mergeInto (Keyed.get? old key) setting))) rest

end

mutual

/-- The setting that a JSON document stands for. -/
def ofDocument : Document → Setting
  | .null => .nothing
  | .bool b => .boolean b
  | .integer n =>
    if (Decimal.int64Of? n).isSome then .integer n else .float (FloatParts.nearest (n < 0) n.natAbs 1)
  | .float x => .float x
  | .string s => .text s
  | .array items => .list (ofItems items)
  | .object members => .table (ofMembers members)

/-- The settings of the items of an array. -/
def ofItems : List Document → List Setting
  | [] => []
  | item :: rest => ofDocument item :: ofItems rest

/-- The settings under the members of an object. -/
def ofMembers : List (String × Document) → List (String × Setting)
  | [] => []
  | (key, value) :: rest => (key, ofDocument value) :: ofMembers rest

end

/-- The words for a boolean, in any case. -/
def word? (s : String) : Option Bool :=
  let word := Text.toLower s
  if ["true", "on", "yes"].contains word then some true
  else if ["false", "off", "no"].contains word then some false
  else none

/-- The float rounded to a natural number of 64 bits, a half going up. What is outside of the range goes to its
nearer end, and NaN to zero. -/
def roundToNatural (x : Float) : Nat :=
  match FloatParts.ofFloat x with
  | .finite false mantissa exponent =>
    let doubled := FloatParts.wholePart (2 * mantissa) exponent
    min ((doubled + 1) / 2) (Nat.pow 2 64 - 1)
  | .infinite false => Nat.pow 2 64 - 1
  | _ => 0

/-- The setting as a natural number of 64 bits. -/
def natural? : Setting → Option Nat
  | .boolean b => some b.toNat
  | .integer n => if 0 ≤ n then some n.toNat else none
  | .float x => some (roundToNatural x)
  | .text s =>
    match word? s with
    | some b => some b.toNat
    | none => Decimal.readNatBelow? (Nat.pow 2 64) s.toList
  | _ => none

/-- The setting as a boolean. -/
def boolean? : Setting → Option Bool
  | .boolean b => some b
  | .integer n => some (n ≠ 0)
  | .float x => some (x != 0)
  | .text s => if s = "1" then some true else if s = "0" then some false else word? s
  | _ => none

/-- The setting as a text. -/
def text? : Setting → Option String
  | .boolean b => some (if b then "true" else "false")
  | .integer n => some (toString n)
  | .float x => some (Decimal.floatText x)
  | .text s => some s
  | _ => none

/-- The values of the named fields: by name from a table, by position from a list. Other entries are passed over. -/
def fields? (names : List String) : Setting → Option (List (Option Setting))
  | .table entries => some (names.map fun name => entries.lookup name)
  | .list items => some ((List.range names.length).map fun i => items[i]?)
  | _ => none

end Setting

end EventRules
