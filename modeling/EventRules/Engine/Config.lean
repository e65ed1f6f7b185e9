import EventRules.Error
import EventRules.Expr.Parser
import EventRules.Json.Record
import EventRules.Json.Writer

/-!
# Configuration of the engine
-/

namespace EventRules

/-- How many expressions the cache keeps and how deep expressions may nest. -/
structure EngineConfig where
  cacheCapacity : Nat := 1000
  maxDepth : Nat := defaultMaxDepth
  deriving DecidableEq, Repr, Inhabited

namespace EngineConfig

/-- Both numbers have to be at least one. -/
def validate (c : EngineConfig) : Except Error Unit :=
  if c.cacheCapacity = 0 then .error (.invalidConfig .zeroCacheCapacity)
  else if c.maxDepth = 0 then .error (.invalidConfig .zeroMaxDepth)
  else .ok ()

/-- The names of the fields. -/
def fields : List String := ["cache_capacity", "max_depth"]

/-- The configuration with the given fields. -/
def ofFields? : Json.FieldValues → Option EngineConfig
  | [cacheCapacity, maxDepth] => do
    let standard : EngineConfig := {}
    return {
      cacheCapacity := ← Json.field? standard.cacheCapacity Json.size? cacheCapacity
      maxDepth := ← Json.field? standard.maxDepth Json.size? maxDepth }
  | _ => none

/-- The configuration that a document writes. -/
def ofDocument? (d : Document) : Option EngineConfig :=
  (Json.recordOfDocument? fields d).bind ofFields?

/-- The configuration that a JSON text writes. -/
def ofText? (text : String) : Option EngineConfig :=
  (Json.recordOfText? fields text).bind ofFields?

/-- The configuration as a document. -/
def toDocument (c : EngineConfig) : Document :=
  .object [("cache_capacity", .integer c.cacheCapacity), ("max_depth", .integer c.maxDepth)]

end EngineConfig

end EventRules
