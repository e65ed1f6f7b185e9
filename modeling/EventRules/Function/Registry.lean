import EventRules.Function.Basic
import EventRules.Text.Casing
import EventRules.Text.Search

/-!
# Registry of functions

A registry maps names in capitals to functions. It sets up a function with state when its name is first
resolved, remembers the outcome, and closes it once: when it is replaced or when all are closed. The registry keeps
the history of what was done.
-/

namespace EventRules

/-- A function under a name, with what is known of its state. -/
structure Registration where
  info : FunctionInfo
  /-- The number of this function; every function handed to the registry gets one of its own. -/
  id : Nat
  function : Function
  /-- The outcome of its setting up, once there is one. -/
  outcome : Option (Except Error Unit) := none
  closed : Bool := false

/-- Functions by name, their surroundings and their history. -/
structure Registry where
  table : Keyed Registration := []
  context : Context := {}
  past : History := []
  nextId : Nat := 0

/-- A computation that may fail and acts on a state; what it did to the state stays when it fails. -/
abbrev Run (σ α : Type) := ExceptT Error (StateM σ) α

/-- A computation on a state that may fail or break off; what it did to the state stays. -/
abbrev Evaluation (σ α : Type) := ExceptT Halt (StateM σ) α

/-- A computation that can only fail, as a part of one that might break off. -/
instance {σ : Type} : MonadLift (ExceptT Error (StateM σ)) (ExceptT Halt (StateM σ)) where
  monadLift run := fun s => ((run s).1.mapError .failure, (run s).2)

/-- A computation that can only break off, as a part of one that might fail. -/
instance {σ : Type} : MonadLift (ExceptT Panic (StateM σ)) (ExceptT Halt (StateM σ)) where
  monadLift run := fun s => ((run s).1.mapError .panic, (run s).2)

namespace Registry

/-- Notes something that was done with a function. -/
def note (r : Registry) (owner : Nat) (action : Action) (succeeded : Bool) : Registry :=
  { r with past := ⟨owner, action, succeeded⟩ :: r.past }

/-- The situation of the function with the given number. -/
def situation (r : Registry) (id : Nat) : Situation :=
  ⟨r.context, id, r.past⟩

/-- Whether a name is taken; names are compared as they are. -/
def contains (r : Registry) (name : String) : Bool :=
  Keyed.has r.table name

/-- The description of a function. -/
def info? (r : Registry) (name : String) : Option FunctionInfo :=
  (Keyed.get? r.table name).map (·.info)

/-- The descriptions of all functions, sorted by name. -/
def functions (r : Registry) : List FunctionInfo :=
  r.table.map (·.2.info)

/-- How many functions there are. -/
def size (r : Registry) : Nat :=
  r.table.length

/-- Sets up a function with state, unless that has been done before. -/
def ensureReady (entry : Registration) (r : Registry) : Except Error Unit × Registry :=
  if !entry.function.stateful then (.ok (), r)
  else if entry.closed then (.error (.initialization entry.info.name .closed), r)
  else match entry.outcome with
    | some outcome => (outcome, r)
    | none =>
      let outcome := entry.function.setUp (r.situation entry.id)
      let table := Keyed.insert r.table entry.info.name { entry with outcome := some outcome }
      (outcome, { r with table }.note entry.id .setUp outcome.isOk)

/-- Looks a function up by name and makes it ready. -/
def resolve (name : String) : Run Registry Registration := fun r =>
  match Keyed.get? r.table name with
  | none => (.error (.unknownFunction name), r)
  | some entry =>
    match ensureReady entry r with
    | (.ok (), r) => (.ok entry, r)
    | (.error e, r) => (.error e, r)

/-- Applies a function that is ready. -/
def applyEntry (entry : Registration) (args : List Value) : Evaluation Registry Value := fun r =>
  let result := entry.function.apply (r.situation entry.id) args
  (result, r.note entry.id (.apply args) result.isOk)

/-- Resolves a function and applies it. -/
def call (name : String) (args : List Value) : Evaluation Registry Value := do
  applyEntry (← resolve name) args

/-- Closes a function that was set up well, for a registration that is not closed yet. -/
def closeEntry (entry : Registration) (r : Registry) : Except Error Unit × Registry :=
  match entry.closed, entry.outcome with
  | false, some (.ok ()) =>
    let result := entry.function.close (r.situation entry.id)
    (result, r.note entry.id .close result.isOk)
  | _, _ => (.ok (), r)

/-- The name under which a function is kept. -/
def canonicalName (name : String) : String :=
  Text.toUpperAscii (Text.trim name)

/-- Puts a function under its name. A taken name is an error unless the function replaces the other, which is then
closed. -/
def insert (info : FunctionInfo) (function : Function) (replace : Bool) : Run Registry Unit := fun r =>
  let id := r.nextId
  let r := { r with nextId := id + 1 }
  let name := canonicalName info.name
  if name.isEmpty then (.error (.invalidConfig .emptyFunctionName), r)
  else
    let old := Keyed.get? r.table name
    if old.isSome ∧ !replace then (.error (.duplicateFunction name), r)
    else
      let entry : Registration := { info := { info with name }, id, function }
      let r := { r with table := Keyed.insert r.table name entry }
      match old with
      | some old => closeEntry old r
      | none => (.ok (), r)

/-- Puts a function under a name that is free. -/
def register (info : FunctionInfo) (function : Function) : Run Registry Unit :=
  insert info function false

/-- Puts a function under a name, free or not. -/
def replace (info : FunctionInfo) (function : Function) : Run Registry Unit :=
  insert info function true

/-- Closes the functions under the given names, whatever happens, and gives the first error. -/
def closeNames : List String → Run Registry Unit
  | [], r => (.ok (), r)
  | name :: names, r =>
    match Keyed.get? r.table name with
    | none => closeNames names r
    | some entry =>
      let r := { r with table := Keyed.insert r.table name { entry with closed := true } }
      let (first, r) := closeEntry entry r
      let (others, r) := closeNames names r
      (match first with
        | .ok () => others
        | .error e => .error e, r)

/-- Closes all functions, in the order of their names. If several of them fail, which error is given rests on that
order, which callers cannot count on; whether there is one does not. -/
def closeAll : Run Registry Unit := fun r =>
  closeNames (Keyed.keys r.table) r

end Registry

end EventRules
