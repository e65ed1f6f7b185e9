import EventRules.Engine.Basic
import EventRules.Triage.Aggregator

/-!
# Threat triage

A triage configuration gives predicates a score. The scores of the predicates that hold of an event are combined to
the score of the event. A predicate that fails does not match; the others are not affected. One that breaks off ends
the scoring, and there is no score.
-/

namespace EventRules

/-- Scores by predicate, in the order of the predicates, and the way in which they are combined. -/
structure TriageConfig where
  rules : Keyed Float := []
  aggregator : Aggregator := .max
  deriving Inhabited

/-- The score of an event with the rules that matched. -/
structure ThreatScore where
  score : Float
  aggregator : Aggregator
  matched : List (String × Float)
  deriving Inhabited

namespace TriageConfig

/-- The names of the fields. -/
def fields : List String := ["riskLevelRules", "aggregator"]

/-- Rules as an object from predicates to numbers. -/
def rulesOf? : Document → Option (Keyed Float)
  | .object members => do
    let pairs ← members.mapM fun (rule, score) => (Json.float? score).map fun x => (rule, x)
    return Keyed.ofPairs pairs
  | _ => none

/-- The configuration with the given fields. -/
def ofFields? : Json.FieldValues → Option TriageConfig
  | [rules, aggregator] => do
    return {
      rules := ← Json.field? [] rulesOf? rules
      aggregator := ← Json.field? .max Aggregator.ofDocument? aggregator }
  | _ => none

/-- The configuration that a document writes. -/
def ofDocument? (d : Document) : Option TriageConfig :=
  (Json.recordOfDocument? fields d).bind ofFields?

/-- The configuration that a JSON text writes. -/
def ofText (text : String) : Except Error TriageConfig :=
  match (Json.recordOfText? fields text).bind ofFields? with
  | some config => .ok config
  | none => .error (.invalidConfig .triageShape)

/-- Checks the scores and validates the predicates in order. -/
def validateRules : List (String × Float) → Run Engine Unit
  | [] => return
  | (rule, score) :: rest => do
    if !(FloatParts.ofFloat score).isFinite then throw (.invalidConfig (.scoreNotFinite rule))
    discard (Engine.validate rule)
    validateRules rest

/-- Every score has to be finite and every predicate valid. -/
def validate (config : TriageConfig) : Run Engine Unit :=
  validateRules config.rules

/-- Whether a rule holds. It does not if it fails; that it breaks off is not caught. -/
def holds (rule : String) (vars : Resolver) : ExceptT Panic (StateM Engine) Bool := do
  match ← (Engine.runPredicate rule vars).run with
  | .ok b => return b
  | .error (.failure _) => return false
  | .error (.panic p) => throw p

/-- The rules that hold, with their scores. -/
def matching (vars : Resolver) : List (String × Float) → ExceptT Panic (StateM Engine) (List (String × Float))
  | [] => return []
  | (rule, score) :: rest => do
    if ← holds rule vars then return (rule, score) :: (← matching vars rest) else matching vars rest

/-- The score of an event. -/
def score (config : TriageConfig) (vars : Resolver) : ExceptT Panic (StateM Engine) ThreatScore := do
  let matched ← matching vars config.rules
  return { score := config.aggregator.aggregate (matched.map (·.2)), aggregator := config.aggregator, matched }

end TriageConfig

/-- A float in JSON; what is not finite is null. -/
def Document.ofFloat (x : Float) : Document :=
  if (FloatParts.ofFloat x).isFinite then .float x else .null

/-- The score as a document. -/
def ThreatScore.toDocument (s : ThreatScore) : Document :=
  .object [
    ("score", .ofFloat s.score),
    ("aggregator", .string s.aggregator.name),
    ("matched", .array (s.matched.map fun (rule, score) =>
      .object [("rule", .string rule), ("score", .ofFloat score)]))]

end EventRules
