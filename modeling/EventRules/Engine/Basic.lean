import EventRules.Engine.Cache
import EventRules.Engine.Config
import EventRules.Evaluation.Basic

/-!
# The engine

An engine parses expressions through its cache and evaluates them with the functions of its registry. Its state, the
cache and the registry, goes through every operation; a failed operation leaves what it did to the state.
-/

namespace EventRules

/-- A configuration, a registry of functions and a cache of parsed expressions. -/
structure Engine where
  config : EngineConfig
  registry : Registry
  cache : Cache Expression

namespace Engine

/-- An engine over a registry, if the configuration is valid. -/
def create (config : EngineConfig) (registry : Registry) : Except Error Engine := do
  config.validate
  return { config, registry, cache := ← Cache.create config.cacheCapacity }

/-- Acts on the registry alone. -/
def onRegistry {ε α : Type} (run : ExceptT ε (StateM Registry) α) : ExceptT ε (StateM Engine) α := fun e =>
  let (result, registry) := run e.registry
  (result, { e with registry })

/-- The expression of a source, from the cache if it is there. -/
def parse (source : String) : Run Engine Expression := fun e =>
  let (result, cache) := e.cache.getOrCompile source fun s => Expression.parse s e.config.maxDepth
  (result, { e with cache })

/-- The value of an expression that has been parsed. -/
def evaluateExpression (x : Expression) (vars : Resolver) : Evaluation Engine Value :=
  onRegistry (x.root.evaluate Registry.calls vars)

/-- The value of a source. -/
def evaluate (source : String) (vars : Resolver) : Evaluation Engine Value := do
  evaluateExpression (← parse source) vars

/-- The value of a source as a predicate: null is false, and anything but a boolean an error. -/
def runPredicate (source : String) (vars : Resolver) : Evaluation Engine Bool := do
  (← evaluate source vars).predicate

/-- Parses a source and checks that the functions it calls exist; nothing is evaluated. -/
def validate (source : String) : Run Engine Expression := do
  let x ← parse source
  let registry := (← get).registry
  match x.root.functionNames.find? fun name => !registry.contains name with
  | some name => throw (.unknownFunction name)
  | none => return x

/-- What the cache holds for a source; that counts as a use. -/
def cached? (source : String) : StateM Engine (Option Expression) := fun e =>
  let (found, cache) := e.cache.get? source
  (found, { e with cache })

/-- Empties the cache. -/
def clearCache : StateM Engine Unit := fun e =>
  ((), { e with cache := e.cache.clear })

/-- Closes the functions that were set up. -/
def close : Run Engine Unit :=
  onRegistry Registry.closeAll

/-- A description of the engine for diagnosis. -/
def description (e : Engine) : String :=
  let fields (name : String) (entries : List (String × String)) : String :=
    name ++ " \x7b " ++ ", ".intercalate (entries.map fun f => f.1 ++ ": " ++ f.2) ++ " \x7d"
  let number (n : Nat) : String := toString n
  let stats := e.cache.stats
  fields "Engine" [
    ("config", fields "EngineConfig"
      [("cache_capacity", number e.config.cacheCapacity), ("max_depth", number e.config.maxDepth)]),
    ("registry", fields "FunctionRegistry"
      [("functions", number e.registry.size),
        ("context", fields "Context"
          [("enrichment_store", if e.registry.context.store.isSome then "true" else "false")])]),
    ("cache", fields "ExpressionCache"
      [("capacity", number e.cache.capacity), ("len", number e.cache.size),
        ("stats", fields "CacheStats"
          [("hits", number stats.hits), ("misses", number stats.misses), ("compiles", number stats.compiles),
            ("evictions", number stats.evictions)])])]

end Engine

end EventRules
