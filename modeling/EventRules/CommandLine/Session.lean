import EventRules.CommandLine.Arguments
import EventRules.Function.Catalog
import EventRules.Settings.Basic
import EventRules.Transformation.Enrichment
import EventRules.Triage.Config

/-!
# Running a command

A run reads files and the variables of the environment, writes lines, and ends with a status. The way in which files
are read is a parameter: the same run works on the files of a machine and on a table of texts.
-/

namespace EventRules.CommandLine

/-- What a run finds around it. -/
structure Surroundings (m : Type → Type) where
  read : (path : String) → m (Except FileFault String)
  environment : List (String × String) := []

/-- How a run ended: its status, what it wrote, and what it reported as an error. -/
structure Outcome where
  status : Nat
  output : String := ""
  errors : String := ""
  deriving DecidableEq, Repr

/-- The status of a run that failed. -/
def failureStatus : Nat := 1

/-- The status of a run whose arguments do not fit. -/
def misuseStatus : Nat := 2

/-- The status of a run that broke off. -/
def panicStatus : Nat := 101

/-- A part of a run that keeps a state; what it did to the state stays when it fails or breaks off. A failure can be
caught, a panic cannot. -/
abbrev Session (σ : Type) (m : Type → Type) (α : Type) := ExceptT Failure (ExceptT Panic (StateT σ m)) α

/-- The state of a command: its engine and the output so far. -/
structure Progress where
  engine : Engine
  output : String := ""

variable {σ α : Type} {m : Type → Type} [Monad m]

/-- The result, or the failure that an error leads to. -/
def orFail {ε : Type} (failure : ε → Failure) : Except ε α → Session σ m α
  | .ok a => return a
  | .error e => throw (failure e)

/-! ## Files -/

/-- The text of a file. -/
def readText (s : Surroundings m) (path : String) : Session σ m String := do
  match ← s.read path with
  | .ok text => return text
  | .error fault => throw ⟨"Failed to read " ++ path, [fault.message]⟩

/-- The document in a file. -/
def readDocument (s : Surroundings m) (path : String) : Session σ m Document := do
  match Json.parse? (← readText s path) with
  | some d => return d
  | none => throw ⟨"Failed to parse JSON in " ++ path, []⟩

/-- The members of the object in a file. -/
def readObject (s : Surroundings m) (path : String) : Session σ m Members := do
  match (← readDocument s path).members? with
  | some members => return members
  | none => throw ⟨path ++ " must contain a JSON object", []⟩

/-! ## Settings and engine -/

/-- The layer of a file of settings, whose extension tells its form. -/
def layerOfFile (path text : String) : Session σ m Layer := do
  match Layer.forms.lookup (Layer.extension path) with
  | none => throw ⟨"configuration file \"" ++ path ++ "\" is not of a registered file format", []⟩
  | some form =>
    match Layer.ofText? form text with
    | some layer => return layer
    | none => throw ⟨"invalid settings in " ++ path, []⟩

/-- The layer of the first file that is there among paths. -/
def firstLayer (s : Surroundings m) (name : String) : List String → Session σ m Layer
  | [] => throw ⟨"configuration file \"" ++ name ++ "\" not found", []⟩
  | path :: rest => do
    match ← s.read path with
    | .ok text => layerOfFile path text
    | .error fault => if fault.isFile then throw ⟨fault.message, []⟩ else firstLayer s name rest

/-- The layer of the file of settings. Where there is no file of the given name, one with an extension will do. -/
def readLayer (s : Surroundings m) (path : String) : Session σ m Layer :=
  firstLayer s path (path :: Layer.forms.map fun form => path ++ "." ++ form.1)

/-- The settings: those of the environment over those of the file, if one is given. -/
def readSettings (s : Surroundings m) (config : Option String) : Session σ m Settings := do
  let environment := Layer.ofEnvironment s.environment
  let layers ← match config with
    | none => pure [environment]
    | some path =>
      try pure [← readLayer s path, environment]
      catch f => throw (f.within "Failed to read configuration sources")
  orFail id (Settings.ofLayers layers)

/-- The enrichment records in a file. -/
def readStore (s : Surroundings m) (path : String) : Session σ m EnrichmentStore := do
  orFail (.because ("Invalid enrichment data in " ++ path)) (EnrichmentStore.ofDocument (← readDocument s path))

/-- The engine that the options ask for. -/
def prepare (s : Surroundings m) (options : CommonOptions) : Session σ m Engine := do
  let settings ←
    try readSettings s options.config
    catch f => throw (f.within "Failed to load configuration")
  let store ← match options.enrichments with
    | none => pure none
    | some path => (some ·.source) <$> readStore s path
  orFail (.because "Failed to create engine") (Engine.create settings.engine (Registry.ofCatalog { store }))

/-! ## Commands -/

/-- Writes a line. -/
def writeLine (line : String) : Session Progress m Unit :=
  modify fun p => { p with output := p.output ++ line ++ "\n" }

/-- Writes a document on several lines. -/
def writeDocument (d : Document) : Session Progress m Unit :=
  writeLine d.pretty

/-- Acts with the engine; an error of it leads to a failure, and a panic ends the run. -/
def withEngine (run : Evaluation Engine α) (failure : Error → Failure := .ofError) : Session Progress m α := do
  let (result, engine) := run (← get).engine
  modify fun p => { p with engine }
  match result with
  | .ok a => return a
  | .error (.failure e) => throw (failure e)
  | .error (.panic p) => throwThe Panic p

/-- Evaluates an expression on an event with further variables, and writes its value. -/
def runEval (s : Surroundings m) (expression : String) (bindings : List (String × Document))
    (event : Option String) (predicate : Bool) : Session Progress m Unit := do
  let event ← match event with
    | none => pure []
    | some path => readObject s path
  let fields := bindings.foldl (fun members (name, value) => Members.insert members name value) event
  let vars := Resolver.ofEvent fields
  if predicate then
    writeDocument (.bool (← withEngine (Engine.runPredicate expression vars)))
  else writeDocument (← withEngine (Engine.evaluate expression vars)).toDocument

/-- Validates expressions up to the first that is invalid, and writes those that are valid. -/
def runCheck : List String → Session Progress m Unit
  | [] => return
  | expression :: rest => do
    discard (withEngine (Engine.validate expression) (.because ("Invalid expression: " ++ expression)))
    writeLine ("ok: " ++ expression)
    runCheck rest

/-- Scores an event, and writes the score. -/
def runTriage (s : Surroundings m) (rules event : String) : Session Progress m Unit := do
  match TriageConfig.ofDocument? (← readDocument s rules) with
  | none => throw ⟨"Invalid triage configuration in " ++ rules, []⟩
  | some config =>
    withEngine config.validate
    let event ← readObject s event
    writeDocument (← withEngine (config.score (Resolver.ofEvent event))).toDocument

/-- Transforms an event, and writes it. -/
def runTransform (s : Surroundings m) (definition event : String) : Session Progress m Unit := do
  let config ← orFail (.because ("Invalid enrichment config in " ++ definition))
    (EnrichmentConfig.ofDocument (← readDocument s definition))
  withEngine config.validate
  let event ← readObject s event
  writeDocument (.object (← withEngine (config.apply event)))

/-- The lines that describe a function. -/
def functionLines (info : FunctionInfo) : List String :=
  let line (label text : String) : List String := if text.isEmpty then [] else ["    " ++ label ++ text]
  (info.name ++ "(" ++ toString info.params.length ++ ")") :: line "" info.description ++
    info.params.map ("    - " ++ ·) ++ line "returns: " info.returns

/-- Writes the descriptions of all functions. -/
def runFunctions : Session Progress m Unit := do
  ((← get).engine.registry.functions.flatMap functionLines).forM writeLine

/-- Runs a command. -/
def runCommand (s : Surroundings m) : Command → Session Progress m Unit
  | .eval expression bindings event predicate => runEval s expression bindings event predicate
  | .check expressions => runCheck expressions
  | .triage rules event => runTriage s rules event
  | .transform definition event => runTransform s definition event
  | .functions => runFunctions

/-! ## Runs -/

/-- The name and the version of the program. -/
def versionText : String := "stellar 0.1.0"

/-- How the program is called. -/
def helpText : String :=
  "Usage: stellar [OPTIONS] <COMMAND>\n\n" ++
  "Commands:\n" ++
  "  eval       Evaluate an expression and print the result as JSON\n" ++
  "  check      Validate expressions without evaluating them\n" ++
  "  triage     Score an event against a triage configuration\n" ++
  "  transform  Apply an enrichment configuration to an event\n" ++
  "  functions  List the registered functions\n\n" ++
  "Options:\n" ++
  "      --config <FILE>         Settings file; STELLAR_* environment variables override it\n" ++
  "      --enrichments <FILE>    Enrichment data\n" ++
  "      --log-level <LEVEL>     Log level\n" ++
  "      --log-json              Log as JSON lines\n" ++
  "  -h, --help                  Print help\n" ++
  "  -V, --version               Print version"

/-- How a run ended, from its result and its output. What is reported of a panic tells places of the program, and is
left out. -/
def Outcome.ofResult (result : Except Panic (Except Failure Unit)) (output : String) : Outcome :=
  match result with
  | .ok (.ok ()) => { status := 0, output }
  | .ok (.error f) => { status := failureStatus, output, errors := f.text }
  | .error _ => { status := panicStatus, output }

/-- Runs a command with the engine that the options ask for. -/
def execute (s : Surroundings m) (options : CommonOptions) (command : Command) : m Outcome := do
  let (prepared, _) ← (prepare s options : Session Unit m Engine).run.run.run ()
  match prepared with
  | .error p => return .ofResult (.error p) ""
  | .ok (.error f) => return .ofResult (.ok (.error f)) ""
  | .ok (.ok engine) =>
    let (result, progress) ← (runCommand s command).run.run.run { engine }
    return .ofResult result progress.output

/-- Runs the program on its arguments. -/
def run (s : Surroundings m) (args : List String) : m Outcome :=
  match Request.ofArguments? args with
  | none => return { status := misuseStatus, errors := helpText ++ "\n" }
  | some .help => return { status := 0, output := helpText ++ "\n" }
  | some .version => return { status := 0, output := versionText ++ "\n" }
  | some (.run options command) => execute s options command

end EventRules.CommandLine
