import EventRules.Error

/-!
# Failures of the program

A failure says what could not be done, and why: its causes come from the outermost to the innermost. Files that
cannot be read are one of them.
-/

namespace EventRules

/-- Why a file could not be read. -/
inductive FileFault where
  | notFound
  | notPermitted
  /-- A file stands where the path needs a directory. -/
  | notDirectory
  | isDirectory
  | notText
  | other (message : String)
  deriving DecidableEq, Repr

def FileFault.message : FileFault → String
  | notFound => "No such file or directory (os error 2)"
  | notPermitted => "Permission denied (os error 13)"
  | notDirectory => "Not a directory (os error 20)"
  | isDirectory => "Is a directory (os error 21)"
  | notText => "stream did not contain valid UTF-8"
  | other message => message

/-- Whether there is a file at the path, although it could not be read. -/
def FileFault.isFile : FileFault → Bool
  | notFound | notDirectory | isDirectory => false
  | _ => true

/-- What could not be done, and its causes. -/
structure Failure where
  message : String
  causes : List String := []
  deriving DecidableEq, Repr

namespace Failure

/-- A failure that is an error of the engine. -/
def ofError (e : Error) : Failure :=
  ⟨e.message, []⟩

/-- The failure to do something because of an error of the engine. -/
def because (message : String) (e : Error) : Failure :=
  ⟨message, [e.message]⟩

/-- The failure within a larger one. -/
def within (message : String) (f : Failure) : Failure :=
  ⟨message, f.message :: f.causes⟩

/-- A number in at least five columns. -/
def numberColumn (n : Nat) : String :=
  let digits := Nat.toDigits 10 n
  String.ofList (List.replicate (5 - digits.length) ' ' ++ digits)

/-- A text with `start` before its first line and `indent` before the others. -/
def indented (start indent text : String) : String :=
  start ++ String.join ((text.toList.map fun c => if c = '\n' then "\n" ++ indent else String.singleton c))

/-- The lines of the causes; several are numbered from 0. -/
def causeLines : List String → List String
  | [cause] => [indented "    " "    " cause]
  | causes => causes.zipIdx.map fun (cause, i) => indented (numberColumn i ++ ": ") "       " cause

/-- The text of a failure, with its causes in lines of their own. -/
def text (f : Failure) : String :=
  let causes := if f.causes.isEmpty then ""
    else "\n\nCaused by:" ++ String.join ((causeLines f.causes).map fun line => "\n" ++ line)
  "Error: " ++ f.message ++ causes ++ "\n"

end Failure

end EventRules
