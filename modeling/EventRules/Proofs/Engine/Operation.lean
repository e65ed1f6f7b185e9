import EventRules.Proofs.Run
import EventRules.Transformation.Enrichment
import EventRules.Triage.Config

/-!
# Operations of an engine

Everything that may be asked of an engine, of its cache and of its registry, as data, so that runs
are lists. Scoring, transforming and enriching do nothing to the engine but evaluate sources one
after the other. A property of computations that sequencing keeps therefore holds of them as soon as
it holds of `Engine.evaluate`: that is what `Engine.Sequential` is for.
-/

namespace EventRules

/-- Something that is asked of an engine. -/
inductive Operation where
  | parse (source : String)
  | validate (source : String)
  | evaluate (source : String) (vars : Resolver)
  | runPredicate (source : String) (vars : Resolver)
  | score (config : TriageConfig) (vars : Resolver)
  | transform (transformation : Transformation) (event : Members)
  | enrich (config : EnrichmentConfig) (event : Members)
  | cached (source : String)
  | clearCache
  | register (info : FunctionInfo) (function : Function)
  /-- Registers a function without state. -/
  | registerFn (info : FunctionInfo) (apply : Situation → List Value → Except Halt Value)
  | replace (info : FunctionInfo) (function : Function)
  | contains (name : String)
  | info (name : String)
  | functions
  | resolve (name : String)
  | call (name : String) (args : List Value)
  | closeAll

/-- The sources that an operation evaluates. -/
def Operation.sources : Operation → List String
  | .evaluate source _ | .runPredicate source _ => [source]
  | .score config _ => config.rules.map (·.1)
  | .transform t _ => t.assignments.map (·.2)
  | .enrich c _ => c.groups.flatMap fun group => group.2.assignments.map (·.2)
  | _ => []

namespace Engine

/-- The engine after an operation. -/
def perform (e : Engine) : Operation → Engine
  | .parse source => (parse source e).2
  | .validate source => (validate source e).2
  | .evaluate source vars => (evaluate source vars e).2
  | .runPredicate source vars => (runPredicate source vars e).2
  | .score config vars => (config.score vars e).2
  | .transform t event => (t.apply event e).2
  | .enrich c event => (c.apply event e).2
  | .cached source => (cached? source e).2
  | .clearCache => (clearCache e).2
  | .register info function => (onRegistry (Registry.register info function) e).2
  | .registerFn info apply => (onRegistry (Registry.register info { apply }) e).2
  | .replace info function => (onRegistry (Registry.replace info function) e).2
  | .contains _ | .info _ | .functions => e
  | .resolve name => (onRegistry (Registry.resolve name) e).2
  | .call name args => (onRegistry (Registry.call name args) e).2
  | .closeAll => (close e).2

/-- What is done to the registry of an engine is done to that registry. -/
lemma registry_onRegistry {ε α : Type} (run : ExceptT ε (StateM Registry) α) (e : Engine) :
    (onRegistry run e).2.registry = (run e.registry).2 := rfl

/-- A function that is registered is put into the registry, if its name is free. -/
lemma perform_register (e : Engine) (info : FunctionInfo) (f : Function) :
    e.perform (.register info f) = (onRegistry (Registry.insert info f false) e).2 := rfl

/-- A function of its arguments is registered without anything to set up or to close. -/
lemma perform_registerFn (e : Engine) (info : FunctionInfo)
    (apply : Situation → List Value → Except Halt Value) :
    e.perform (.registerFn info apply) = (onRegistry (Registry.insert info { apply } false) e).2 := rfl

/-- A function that is replaced is put into the registry in any case. -/
lemma perform_replace (e : Engine) (info : FunctionInfo) (f : Function) :
    e.perform (.replace info f) = (onRegistry (Registry.insert info f true) e).2 := rfl

/-- The engine after some operations. -/
def performAll (e : Engine) (ops : List Operation) : Engine :=
  ops.foldl perform e

/-- Without operations the engine stays as it is. -/
@[simp] lemma performAll_nil (e : Engine) : e.performAll [] = e := rfl

/-- The last operation is performed on what the others leave. -/
@[simp] lemma performAll_concat (e : Engine) (ops : List Operation) (op : Operation) :
    e.performAll (ops ++ [op]) = (e.performAll ops).perform op :=
  List.foldl_append

section parse

variable {source : String} {vars : Resolver} {e next : Engine}

/-- A source that was parsed is evaluated on the engine that parsing it left. -/
lemma evaluate_ok {x : Expression} (h : parse source e = (.ok x, next)) :
    evaluate source vars e = evaluateExpression x vars next :=
  Run.bind_ok (Run.lift_ok h)

/-- A source that does not parse has no value. -/
lemma evaluate_error {err : Error} (h : parse source e = (.error err, next)) :
    evaluate source vars e = (.error (.failure err), next) :=
  Run.bind_error (Run.lift_error h)

/-- A source that parses is valid if the functions that it calls are there, and the first missing one is named.
-/
lemma validate_ok {x : Expression} (h : parse source e = (.ok x, next)) :
    validate source e =
      (match x.root.functionNames.find? fun name => !next.registry.contains name with
        | some name => .error (.unknownFunction name)
        | none => .ok x, next) := by
  unfold validate
  rw [Run.bind_ok h, Run.bind_ok (show (get : Run Engine Engine) next = (.ok next, next) from rfl)]
  cases x.root.functionNames.find? fun name => !next.registry.contains name <;> rfl

/-- A source that does not parse is not valid. -/
lemma validate_error {err : Error} (h : parse source e = (.error err, next)) :
    validate source e = (.error err, next) :=
  Run.bind_error h

/-- Validating a source does nothing to the registry. -/
lemma registry_validate (source : String) (e : Engine) : (validate source e).2.registry = e.registry := by
  have hregistry : (parse source e).2.registry = e.registry := rfl
  cases hp : parse source e with
  | mk result next =>
    rw [hp] at hregistry
    cases result with
    | ok x => rw [validate_ok hp, hregistry]
    | error err => rw [validate_error hp, hregistry]

end parse

/-- A property of computations of an engine that holds of a computation as soon as it holds of its
steps. -/
structure Sequential (P : {α : Type} → StateM Engine α → Prop) : Prop where
  pure : ∀ {α : Type} (a : α), P (pure a : StateM Engine α)
  bind : ∀ {α β : Type} {x : StateM Engine α} {f : α → StateM Engine β},
    P x → (∀ a, P (f a)) → P (x >>= f)

namespace Sequential

variable {P : {α : Type} → StateM Engine α → Prop} {α β : Type} {sources : List String} {vars : Resolver}

/-- Computations that may fail are sequences, too. -/
lemma run_bind {ε : Type} (h : Sequential P) {x : ExceptT ε (StateM Engine) α} {f : α → ExceptT ε (StateM Engine) β}
    (hx : P x.run)
    (hf : ∀ a, P (f a).run) : P (x >>= f).run := by
  rw [ExceptT.run_bind]
  refine h.bind hx fun result => ?_
  cases result with
  | ok a => exact hf a
  | error err => exact h.pure _

/-- A computation that can only fail has a sequential property as a part of one that might break off, too. -/
lemma run_lift (h : Sequential P) {x : Run Engine α} (hx : P x.run) : P (liftM x : Evaluation Engine α).run :=
  h.bind hx fun result => h.pure (result.mapError Halt.failure)

/-- A predicate is an evaluation with a test of its value. -/
lemma runPredicate (h : Sequential P) {source : String} (he : P (Engine.evaluate source vars).run) :
    P (Engine.runPredicate source vars).run :=
  h.run_bind he fun v => h.pure (liftM v.predicate)

/-- Whether a rule holds is found by evaluating it. -/
lemma holds (h : Sequential P) {rule : String} (he : P (Engine.evaluate rule vars).run) :
    P (TriageConfig.holds rule vars).run := by
  have hrun : P (ExceptT.run (ExceptT.lift (Engine.runPredicate rule vars).run : ExceptT Panic (StateM Engine) _)) := by
    rw [ExceptT.run_lift, map_eq_pure_bind]
    exact h.bind (h.runPredicate he) fun _ => h.pure _
  refine h.run_bind hrun fun result => ?_
  split <;> exact h.pure _

/-- The rules that hold are found by evaluating all rules. -/
lemma matching (h : Sequential P) {rules : List (String × Float)}
    (he : ∀ rule ∈ rules, P (Engine.evaluate rule.1 vars).run) : P (TriageConfig.matching vars rules).run := by
  induction rules with
  | nil => exact h.pure _
  | cons rule rules ih =>
    have ih := ih fun r hr => he r (List.mem_cons_of_mem _ hr)
    refine h.run_bind (h.holds (he rule List.mem_cons_self)) fun result => ?_
    split
    · exact h.run_bind ih fun _ => h.pure _
    · exact ih

/-- A score evaluates its rules one after the other. -/
lemma score (h : Sequential P) {config : TriageConfig}
    (he : ∀ rule ∈ config.rules, P (Engine.evaluate rule.1 vars).run) : P (config.score vars).run :=
  h.run_bind (h.matching he) fun _ => h.pure _

/-- A computation evaluates its assignments one after the other, whatever the values before are. -/
lemma compute (h : Sequential P) {base : Resolver} {assignments : List (String × String)}
    (he : ∀ a ∈ assignments, ∀ vars, P (Engine.evaluate a.2 vars).run) (computed : Entries) :
    P (Transformation.compute base computed assignments).run := by
  induction assignments generalizing computed with
  | nil => exact h.pure _
  | cons a assignments ih =>
    have ih := ih fun b hb => he b (List.mem_cons_of_mem _ hb)
    exact h.run_bind (he a List.mem_cons_self _) fun v => ih _

/-- A transformation evaluates its assignments. -/
lemma transformation (h : Sequential P) {t : Transformation} {base : Resolver}
    (he : ∀ a ∈ t.assignments, ∀ vars, P (Engine.evaluate a.2 vars).run) : P (t.evaluate base).run :=
  h.run_bind (h.compute he []) fun _ => h.pure _

/-- The outputs of groups come from their assignments. -/
lemma outputs (h : Sequential P) {base : Resolver} {groups : List (Option String × Transformation)}
    (he : ∀ g ∈ groups, ∀ a ∈ g.2.assignments, ∀ vars, P (Engine.evaluate a.2 vars).run) :
    P (EnrichmentConfig.outputs base groups).run := by
  induction groups with
  | nil => exact h.pure _
  | cons g groups ih =>
    have ih := ih fun g' hg => he g' (List.mem_cons_of_mem _ hg)
    refine h.run_bind (h.transformation (he g List.mem_cons_self)) fun _ => ?_
    exact h.run_bind ih fun _ => h.pure _

/-- The application of a transformation evaluates its assignments. -/
lemma transform (h : Sequential P) {t : Transformation} {event : Members}
    (he : ∀ a ∈ t.assignments, ∀ vars, P (Engine.evaluate a.2 vars).run) : P (t.apply event).run :=
  h.run_bind (h.transformation he) fun _ => h.pure _

/-- The application of an enrichment evaluates the assignments of its groups. -/
lemma enrich (h : Sequential P) {c : EnrichmentConfig} {event : Members}
    (he : ∀ g ∈ c.groups, ∀ a ∈ g.2.assignments, ∀ vars, P (Engine.evaluate a.2 vars).run) :
    P (c.apply event).run :=
  h.run_bind (h.outputs he) fun _ => h.pure _

end Sequential

end Engine

end EventRules
