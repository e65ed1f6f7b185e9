import EventRules.Calendar.Reader
import EventRules.Calendar.Writer
import EventRules.Function.Arguments

/-!
# Functions on dates

Reading and writing dates by formats. Dates are in universal time, and a moment is told by the number of
milliseconds since the start of 1970.
-/

namespace EventRules.TimeFunctions

open Arguments Calendar

/-- The moment that a text tells by a format, null if it tells none. -/
def toEpoch (args : List Value) : Except Error Value := do
  checkArity "TO_EPOCH_TIMESTAMP" args 2 (some 2)
  match ← string? "TO_EPOCH_TIMESTAMP" args 0, ← string? "TO_EPOCH_TIMESTAMP" args 1 with
  | some s, some format =>
    let moment? := (format? format).bind fun items => Moment.ofText? items s
    return (moment?.map fun m => .int (Int64.ofInt m.millis)).getD .null
  | _, _ => return .null

/-- The text of a moment in a format, null if the format or the moment is not known. Nobody checks whether a format
that is known can be written in, and to write in one that cannot breaks off. -/
def formatDate (args : List Value) : Except Halt Value := do
  checkArity "DATE_FORMAT" args 2 (some 2)
  match ← string? "DATE_FORMAT" args 0, ← int? "DATE_FORMAT" args 1 with
  | some format, some millis =>
    match Moment.ofMillis? millis.toInt, format? format with
    | some m, some items =>
      match m.format? items with
      | some text => return .string text
      | none => throw (.panic (.unwritableFormat format))
    | _, _ => return .null
  | _, _ => return .null

def catalog : List Builtin := [
  .ofArgs "TO_EPOCH_TIMESTAMP" "Returns the epoch timestamp of the date using the format provided"
    ["dateTime - DateTime in string format", "format - DateTime format as a strftime string"]
    "Epoch timestamp in milliseconds" toEpoch,
  ⟨{ name := "DATE_FORMAT"
     description := "Takes an epoch timestamp and converts it to a date format"
     params := ["format - DateTime format as a strftime string", "timestampField - Epoch timestamp in milliseconds"]
     returns := "Formatted date" },
    .ofArgs formatDate⟩]

end EventRules.TimeFunctions
