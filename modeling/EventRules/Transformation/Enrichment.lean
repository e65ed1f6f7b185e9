import EventRules.Transformation.Fields

/-!
# Enrichment by groups

An enrichment is one transformation without a name or several named ones. Every group is evaluated on the event as
it came; then all outputs are written in the order of the groups.
-/

namespace EventRules

/-- Transformations by group. -/
structure EnrichmentConfig where
  groups : List (Option String × Transformation) := []
  deriving DecidableEq, Repr, Inhabited

namespace EnrichmentConfig

/-- The members of a configuration: those under `config`, if an object is there, or its own. -/
def members? : Document → Option Members
  | .object members =>
    match Members.get? members "config" with
    | some (.object inner) => some inner
    | _ => some members
  | _ => none

/-- A named group. -/
def groupOfMember (member : String × Document) : Except Error (Option String × Transformation) :=
  return (some member.1, ← Transformation.ofDocument member.2)

/-- The enrichment that a document writes. If all members are texts, they are the assignments of a single group. -/
def ofDocument (d : Document) : Except Error EnrichmentConfig :=
  match members? d with
  | none => .error (.invalidConfig .enrichmentNotObject)
  | some members =>
    if members.all fun member => member.2.string?.isSome then
      return ⟨[(none, ← Transformation.ofDocument (.object members))]⟩
    else return ⟨← members.mapM groupOfMember⟩

/-- Validates groups in order. -/
def validateGroups : List (Option String × Transformation) → Run Engine Unit
  | [] => return
  | (_, t) :: rest => do
    t.validate
    validateGroups rest

/-- Every group has to be valid. -/
def validate (c : EnrichmentConfig) : Run Engine Unit :=
  validateGroups c.groups

/-- The outputs of groups, in order. -/
def outputs (base : Resolver) : List (Option String × Transformation) → Evaluation Engine (List (String × Value))
  | [] => return []
  | (_, t) :: rest => do
    let first ← t.evaluate base
    return first ++ (← outputs base rest)

/-- The event with the outputs of all groups written to it. -/
def apply (c : EnrichmentConfig) (event : Members) : Evaluation Engine Members := do
  return Transformation.write event (← outputs (Resolver.ofEvent event) c.groups)

end EnrichmentConfig

end EventRules
