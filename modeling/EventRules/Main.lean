import EventRules.CommandLine.Session

/-!
# The program

The outer layer: it reads files and the environment of the machine, and writes what a run says.
-/

namespace EventRules.Main

/-- Why the machine could not read a file. -/
def faultOf : IO.Error → FileFault
  | .noFileOrDirectory .. => .notFound
  | .permissionDenied .. => .notPermitted
  | .inappropriateType _ code _ => if code = 21 then .isDirectory else .notDirectory
  | e => .other (toString e)

/-- Reads a file of the machine as a text. -/
def readFile (path : String) : IO (Except FileFault String) := do
  try
    match String.fromUTF8? (← IO.FS.readBinFile path) with
    | some text => return .ok text
    | none => return .error .notText
  catch e => return .error (faultOf e)

/-- The variables of the environment, as the system lists them: `name=value` with a null character after each. -/
def readEnvironment : IO (List (String × String)) := do
  match ← readFile "/proc/self/environ" with
  | .ok text => return (Text.split text "\x00").filterMap fun line => Text.splitOnce? line "="
  | .error _ => return []

end EventRules.Main

open EventRules in
def main (args : List String) : IO UInt32 := do
  let outcome ← CommandLine.run { read := Main.readFile, environment := ← Main.readEnvironment } args
  IO.print outcome.output
  IO.eprint outcome.errors
  return UInt32.ofNat outcome.status
