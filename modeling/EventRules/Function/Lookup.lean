import EventRules.Function.Arguments

/-!
# Enrichment look-ups

Functions with state that ask for enrichment records in their surroundings. They cannot be set up where nothing
can be asked.
-/

namespace EventRules.LookupFunctions

open Arguments

/-- The source of records in the surroundings, or the error that there is none. -/
def store (function : String) (fault : InitializationFault) (s : Situation) : Except Error RecordSource :=
  match s.context.store with
  | some store => .ok store
  | none => .error (.initialization function fault)

/-- The answer to a type and an indicator: `absent` where one of them is null, and else what is made of the record. -/
def answer (function : String) (absent : Value) (found : Option Entries → Value) (s : Situation)
    (args : List Value) : Except Error Value := do
  checkArity function args 2 (some 2)
  let store ← store function .notInitialized s
  match ← string? function args 0, ← string? function args 1 with
  | some type, some indicator => return found (← store.get type indicator)
  | _, _ => return absent

/-- A look-up. It is bound to a source of records when it is set up, and asks that one from then on. The surroundings
of a registry never change, so that the source found in them at an application is the one it was bound to. -/
def lookup (function : String) (absent : Value) (found : Option Entries → Value) : Function where
  stateful := true
  setUp s := discard (store function .noStore s)
  apply s args := liftM (answer function absent found s args)

def catalog : List Builtin := [
  ⟨{ name := "ENRICHMENT_GET"
     description := "Interrogates the enrichment store for the record of an indicator"
     params := ["enrichment_type - The enrichment type", "indicator - The string indicator to look up"]
     returns := "A map of the enrichment record, or null when absent" },
    lookup "ENRICHMENT_GET" .null fun record => (record.map .map).getD .null⟩,
  ⟨{ name := "ENRICHMENT_EXISTS"
     description := "Interrogates the enrichment store for the existence of an indicator"
     params := ["enrichment_type - The enrichment type", "indicator - The string indicator to look up"]
     returns := "True if a record exists and false otherwise" },
    lookup "ENRICHMENT_EXISTS" (.bool false) fun record => .bool record.isSome⟩]

end EventRules.LookupFunctions
