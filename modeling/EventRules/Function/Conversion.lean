import EventRules.Function.Arguments
import EventRules.Text.Casing

/-!
# Conversions

What cannot be converted becomes null and is no error, so that a conversion can be followed by a test for null.
-/

namespace EventRules.ConversionFunctions

open Arguments

/-- The text of a value. -/
def toText (args : List Value) : Except Error Value := do
  checkArity "TO_STRING" args 1 (some 1)
  return ((text? (get args 0)).map .string).getD .null

/-- The integer part of a float, if it lies strictly between -2^63 and 2^63. -/
def wholeOf? (x : Float) : Option Int64 :=
  match (FloatParts.ofFloat x).truncate? with
  | some n => if n.natAbs < Nat.pow 2 63 then some (Int64.ofInt n) else none
  | none => none

/-- The integer that a text writes, or the integer part of the float that it writes. -/
def readWhole? (cs : List Char) : Option Int64 :=
  match Decimal.readInt64? cs with
  | some n => some n
  | none => (Decimal.readFloat? cs).bind wholeOf?

/-- The integer that a value stands for. -/
def integerOf? : Value → Option Int64
  | .int n => some n
  | .float x => wholeOf? x
  | .bool b => some (if b then 1 else 0)
  | .string s => readWhole? (Text.trimChars s.toList)
  | _ => none

/-- The value as an integer. -/
def toInteger (args : List Value) : Except Error Value := do
  checkArity "TO_INTEGER" args 1 (some 1)
  return ((integerOf? (get args 0)).map .int).getD .null

/-- The value as a float. -/
def toDouble (args : List Value) : Except Error Value := do
  checkArity "TO_DOUBLE" args 1 (some 1)
  let x? := match get args 0 with
    | .string s => Decimal.readFloat? (Text.trimChars s.toList)
    | v => v.float?
  return (x?.map .float).getD .null

/-- The value as a boolean. -/
def toBoolean (args : List Value) : Except Error Value := do
  checkArity "TO_BOOLEAN" args 1 (some 1)
  match get args 0 with
  | .bool b => return .bool b
  | .int n => return .bool (n != 0)
  | .string s =>
    match Text.toLowerAscii (Text.trim s) with
    | "true" => return .bool true
    | "false" => return .bool false
    | _ => return .null
  | _ => return .null

def catalog : List Builtin := [
  .ofArgs "TO_STRING" "Transforms the first argument to a string"
    ["input - Object of string or numeric type"] "String" toText,
  .ofArgs "TO_INTEGER" "Transforms the first argument to an integer"
    ["input - Object of string or numeric type"] "Integer version of the first argument" toInteger,
  .ofArgs "TO_LONG" "Transforms the first argument to a long integer"
    ["input - Object of string or numeric type"] "Long version of the first argument" toInteger,
  .ofArgs "TO_DOUBLE" "Transforms the first argument to a double precision number"
    ["input - Object of string or numeric type"] "Double version of the first argument" toDouble,
  .ofArgs "TO_FLOAT" "Transforms the first argument to a floating point number"
    ["input - Object of string or numeric type"] "Float version of the first argument" toDouble,
  .ofArgs "TO_BOOLEAN" "Transforms the first argument to a boolean"
    ["input - Object of string or boolean type"] "Boolean, or null when the input is not recognized" toBoolean]

end EventRules.ConversionFunctions
