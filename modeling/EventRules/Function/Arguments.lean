import EventRules.Decimal.Reader
import EventRules.Function.Basic
import EventRules.Text.Search

/-!
# Arguments of functions

What the functions of the catalog have in common: counting arguments, and taking one as a text, an integer or
anything that has a text. A null or missing argument is taken as absent.
-/

namespace EventRules

/-- A function of the catalog with its description. -/
structure Builtin where
  info : FunctionInfo
  function : Function

/-- A function of the catalog without state, which never breaks off. -/
def Builtin.ofArgs (name description : String) (params : List String) (returns : String)
    (f : List Value → Except Error Value) : Builtin :=
  ⟨{ name, description, params, returns }, .ofArgs fun args => liftM (f args)⟩

namespace Arguments

/-- Fails unless there are at least `least` arguments and, where there is a bound, at most `most`. -/
def checkArity (function : String) (args : List Value) (least : Nat) (most : Option Nat) : Except Error Unit :=
  if least ≤ args.length ∧ most.all (args.length ≤ ·) then .ok ()
  else .error (.arity function least most args.length)

/-- The error that the argument at an index has the wrong type. -/
def mismatch {α : Type} (function : String) (index : Nat) (expected : String) (found : Value) : Except Error α :=
  .error (.type (.argument function (index + 1) expected found.typeName))

/-- The argument at an index, null if it is missing. -/
def get (args : List Value) (index : Nat) : Value :=
  args[index]?.getD .null

/-- The argument at an index as a text. -/
def string? (function : String) (args : List Value) (index : Nat) : Except Error (Option String) :=
  match get args index with
  | .null => .ok none
  | .string s => .ok (some s)
  | v => mismatch function index "string" v

/-- The argument at an index as an integer. Whole floats and texts of integers are integers too. -/
def int? (function : String) (args : List Value) (index : Nat) : Except Error (Option Int64) :=
  match get args index with
  | .null => .ok none
  | .int n => .ok (some n)
  | .float x =>
    if (FloatParts.ofFloat x).isWhole then .ok (some (Decimal.toInt64 x))
    else mismatch function index "integer" (.float x)
  | .string s =>
    match Decimal.readInt64? (Text.trimChars s.toList) with
    | some n => .ok (some n)
    | none => mismatch function index "integer" (.string s)
  | v => mismatch function index "integer" v

/-- The text of a value as functions on text see it; null has none. -/
def text? : Value → Option String
  | .null => none
  | v => some v.text

end Arguments

end EventRules
