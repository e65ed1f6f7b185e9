import EventRules.Engine.Config
import EventRules.Failure
import EventRules.Settings.Layer

/-!
# The settings of the program

The settings of the engine and of its log. What no layer sets has a default, and unknown settings are passed over.
-/

namespace EventRules

/-- What is logged, and in which form. -/
structure LogConfig where
  level : String := "warn"
  json : Bool := false
  deriving DecidableEq, Repr, Inhabited

/-- The settings of the program. -/
structure Settings where
  engine : EngineConfig := {}
  log : LogConfig := {}
  deriving DecidableEq, Repr, Inhabited

namespace Settings

/-- A setting that may be missing, read in one way; a failure names it by its path. -/
def read {α : Type} (path : String) (default : α) (read? : Setting → Option α) : Option Setting → Except Failure α
  | none => .ok default
  | some setting =>
    match read? setting with
    | some a => .ok a
    | none => .error ⟨"invalid value for key " ++ path, []⟩

/-- Several settings that stand in one. -/
def fields (path : String) (names : List String) : Option Setting → Except Failure (List (Option Setting)) :=
  read path (names.map fun _ => none) (Setting.fields? names)

/-- The settings of the engine. -/
def engineOf (setting : Option Setting) : Except Failure EngineConfig := do
  let standard : EngineConfig := {}
  match ← fields "engine" EngineConfig.fields setting with
  | [cacheCapacity, maxDepth] =>
    return {
      cacheCapacity := ← read "engine.cache_capacity" standard.cacheCapacity Setting.natural? cacheCapacity
      maxDepth := ← read "engine.max_depth" standard.maxDepth Setting.natural? maxDepth }
  | _ => return standard

/-- The settings of the log. -/
def logOf (setting : Option Setting) : Except Failure LogConfig := do
  let standard : LogConfig := {}
  match ← fields "logging" ["level", "json"] setting with
  | [level, json] =>
    return {
      level := ← read "logging.level" standard.level Setting.text? level
      json := ← read "logging.json" standard.json Setting.boolean? json }
  | _ => return standard

/-- The settings in the table of all of them. -/
def ofSetting (all : Setting) : Except Failure Settings := do
  return {
    engine := ← engineOf (Keyed.get? all.entries "engine")
    log := ← logOf (Keyed.get? all.entries "logging") }

/-- The settings of layers, the later over the earlier. The engine has to be able to work with them. -/
def ofLayers (layers : List Layer) : Except Failure Settings := do
  let all := layers.foldl Layer.apply (.table [])
  let settings ← (ofSetting all).mapError (Failure.within "Failed to deserialize configuration")
  match settings.engine.validate with
  | .ok () => return settings
  | .error e => .error ⟨"Invalid engine configuration: " ++ e.message, []⟩

end Settings

end EventRules
