import EventRules.CommandLine.Option
import EventRules.Json.Reader

/-!
# What the arguments ask for

The commands of the program with their options. Four options belong to all commands: they may stand before the name
of the command or after it, and then the later one counts.
-/

namespace EventRules.CommandLine

/-- The options that belong to all commands. -/
structure CommonOptions where
  config : Option String := none
  enrichments : Option String := none
  logLevel : Option String := none
  logJson : Bool := false
  deriving DecidableEq, Repr

/-- A command. Events, rules and definitions are given by the paths of their files. -/
inductive Command where
  | eval (expression : String) (bindings : List (String × Document)) (event : Option String) (predicate : Bool)
  | check (expressions : List String)
  | triage (rules event : String)
  | transform (definition event : String)
  | functions
  deriving Inhabited

/-- What the arguments ask for. -/
inductive Request where
  | run (options : CommonOptions) (command : Command)
  | help
  | version
  deriving Inhabited

/-- The options of all commands. -/
def commonOptions : List OptionInfo := [
  ⟨"config", .path⟩, ⟨"enrichments", .path⟩, ⟨"log-level", .text⟩, ⟨"log-json", .flag⟩, ⟨"help", .stop .help 'h'⟩]

/-- The options before the name of the command. -/
def leadingOptions : List OptionInfo :=
  ⟨"version", .stop .version 'V'⟩ :: commonOptions

/-- A variable binding `name=value`; the value is a JSON text, or else a string. -/
def bindingOf? (text : String) : Option (String × Document) :=
  (Text.splitOnce? text "=").map fun (name, value) =>
    (Text.trim name, (Json.parse? value).getD (.string value))

/-- A command as it is called. -/
structure CommandInfo where
  name : String
  options : List OptionInfo
  /-- How many positional arguments there may be, where there is a bound. -/
  most : Option Nat
  /-- The command, if everything it needs was given. -/
  ofScan? : Scan → Option Command

/-- The commands of the program. -/
def commands : List CommandInfo := [
  { name := "eval"
    options := [⟨"var", .binding⟩, ⟨"event", .path⟩, ⟨"predicate", .flag⟩]
    most := some 1
    ofScan? := fun s => do
      let bindings ← (s.values "var").mapM bindingOf?
      return .eval (← s.positionals.head?) bindings (s.value? "event") (s.value? "predicate").isSome },
  { name := "check"
    options := []
    most := none
    ofScan? := fun s => if s.positionals.isEmpty then none else some (.check s.positionals) },
  { name := "triage"
    options := [⟨"rules", .path⟩, ⟨"event", .path⟩]
    most := some 0
    ofScan? := fun s => do return .triage (← s.value? "rules") (← s.value? "event") },
  { name := "transform"
    options := [⟨"definition", .path⟩, ⟨"event", .path⟩]
    most := some 0
    ofScan? := fun s => do return .transform (← s.value? "definition") (← s.value? "event") },
  { name := "functions"
    options := []
    most := some 0
    ofScan? := fun _ => some .functions }]

/-- The options common to all commands, those after the name of the command over those before it. -/
def commonOf (before after : Scan) : CommonOptions :=
  let value? (name : String) := (after.value? name).or (before.value? name)
  { config := value? "config"
    enrichments := value? "enrichments"
    logLevel := value? "log-level"
    logJson := (value? "log-json").isSome }

/-- Help on a command, on helping, or on the whole program. -/
def helpRequest : List String → Except Stop Request
  | [] => .ok .help
  | [name] => if name = "help" || commands.any (·.name = name) then .ok .help else .error .misuse
  | _ => .error .misuse

/-- What the arguments ask for, or why reading them ended. -/
def readArguments (args : List String) : Except Stop Request := do
  let (before, rest) ← Scan.readLeading ⟨leadingOptions, some 0, [], [], none, false⟩ args
  match rest with
  | [] => .error .misuse
  | "help" :: names => helpRequest names
  | name :: rest =>
    match commands.find? (·.name = name) with
    | none => .error .misuse
    | some info =>
      let after ← Scan.readAll ⟨info.options ++ commonOptions, info.most, [], [], none, false⟩ rest
      match info.ofScan? after with
      | some command => return .run (commonOf before after) command
      | none => .error .misuse

/-- What the arguments ask for; none if they do not fit. -/
def Request.ofArguments? (args : List String) : Option Request :=
  match readArguments args with
  | .ok request => some request
  | .error .help => some .help
  | .error .version => some .version
  | .error .misuse => none

end EventRules.CommandLine
