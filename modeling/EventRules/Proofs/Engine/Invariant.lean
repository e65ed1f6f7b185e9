import EventRules.Proofs.Engine.Lifecycle

/-!
# Invariants of a registry in an engine

What evaluating expressions, resolving and calling functions, taking in certain functions and
closing all functions keep of a registry, every operation of an engine keeps, and so does every run
that hands over no other functions.
-/

namespace EventRules

/-- A property of registries that using functions keeps. -/
structure Registry.Survives (I : Registry → Prop) : Prop where
  evaluate : ∀ (x : Expr) vars r, I r → I (x.evaluate calls vars r).2
  resolve : ∀ name r, I r → I (resolve name r).2
  call : ∀ name args r, I r → I (call name args r).2

/-- Using functions keeps what resolving and applying them keeps. -/
lemma Registry.Survives.of_steps {I : Registry → Prop} (hresolve : ∀ name r, I r → I (Registry.resolve name r).2)
    (happly : ∀ e args r, I r → I (Registry.applyEntry e args r).2) : Survives I where
  evaluate x vars r h := by
    let g : Run.Guard Registry := ⟨I, fun _ _ => True, fun _ => trivial, fun _ _ => trivial⟩
    have hrespects : calls.Respects g (fun _ => True) fun _ _ => True :=
      ⟨fun name _ r h => ⟨hresolve name r h, trivial⟩, fun _ _ _ _ _ _ _ => trivial,
        fun r e args h _ => ⟨happly e args r h, trivial⟩, fun _ _ _ _ _ => trivial⟩
    exact (Expr.evaluate_keeps hrespects (fun _ _ _ => trivial) r h).1
  resolve := hresolve
  call name args r h := by
    have hresolved := hresolve name r h
    cases hres : Registry.resolve name r with
    | mk result next =>
      rw [hres] at hresolved
      cases result with
      | error err =>
        rw [call_error hres]
        exact hresolved
      | ok e =>
        rw [call_ok hres]
        exact happly e args next hresolved

/-- A property of registries that everything keeps which an engine does to a registry, as long as
the functions that are handed over are allowed. -/
structure Registry.Invariant (I : Registry → Prop) (Allowed : Function → Prop) : Prop extends Survives I where
  insert : ∀ info f replace r, Allowed f → I r → I (insert info f replace r).2
  closeAll : ∀ r, I r → I (closeAll r).2

/-- The functions that an operation hands over are allowed. -/
def Operation.Hands (Allowed : Function → Prop) (op : Operation) : Prop :=
  ∀ f, op.function? = some f → Allowed f

/-- An operation that neither hands over a function nor closes any. -/
def Operation.Quiet (op : Operation) : Prop :=
  op.function? = none ∧ op.closes = false

namespace Engine

variable {I : Registry → Prop} {Allowed : Function → Prop} {e : Engine} {source : String} {vars : Resolver}

/-- A computation keeps a property of the registry. -/
def Preserves (I : Registry → Prop) {α : Type} (x : StateM Engine α) : Prop :=
  ∀ e, I e.registry → I (x e).2.registry

/-- Keeping an invariant of the registry is closed under doing one thing after another. -/
lemma sequential_preserves : Sequential (@Preserves I) where
  pure _ := fun _ h => h
  bind := by
    intro α β x f hx hf e h
    exact hf (x e).1 (x e).2 (hx e h)

/-- Evaluation keeps whatever resolving and applying functions keep. -/
lemma preserves_evaluate (h : Registry.Survives I) (source : String) (vars : Resolver) :
    Preserves I (Engine.evaluate source vars).run := by
  refine sequential_preserves.run_bind (fun e he => he) fun x => ?_
  intro e he
  exact h.evaluate x.root vars e.registry he

/-- Every operation that hands over no function and closes none keeps whatever resolving and applying
functions keep. -/
lemma preserves_quiet (h : Registry.Survives I) {op : Operation} (hop : op.Quiet) (he : I e.registry) :
    I (e.perform op).registry := by
  cases op with
  | parse source => exact he
  | validate source =>
    show I (Engine.validate source e).2.registry
    rw [registry_validate]
    exact he
  | evaluate source vars => exact preserves_evaluate h source vars e he
  | runPredicate source vars =>
    have hp : Preserves I (Engine.runPredicate source vars).run :=
      sequential_preserves.runPredicate (preserves_evaluate h source vars)
    exact hp e he
  | score config vars =>
    have hs : Preserves I (config.score vars) :=
      sequential_preserves.score fun rule _ => preserves_evaluate h rule.1 vars
    exact hs e he
  | transform t event =>
    have ht : Preserves I (t.apply event).run :=
      sequential_preserves.transform fun a _ vars => preserves_evaluate h a.2 vars
    exact ht e he
  | enrich c event =>
    have hc : Preserves I (c.apply event).run :=
      sequential_preserves.enrich fun _ _ a _ vars => preserves_evaluate h a.2 vars
    exact hc e he
  | cached source => exact he
  | clearCache => exact he
  | register info f => cases hop.1
  | registerFn info apply => cases hop.1
  | replace info f => cases hop.1
  | contains _ => exact he
  | info _ => exact he
  | functions => exact he
  | resolve name => exact h.resolve name e.registry he
  | call name args => exact h.call name args e.registry he
  | closeAll => cases hop.2

/-- Every operation keeps an invariant that is kept by all that the registry can do. -/
lemma preserves_perform (h : Registry.Invariant I Allowed) {op : Operation} (hop : op.Hands Allowed)
    (he : I e.registry) : I (e.perform op).registry := by
  cases op with
  | register info f =>
    rw [perform_register, registry_onRegistry]
    exact h.insert info f false e.registry (hop f rfl) he
  | registerFn info apply =>
    rw [perform_registerFn, registry_onRegistry]
    exact h.insert info { apply } false e.registry (hop { apply } rfl) he
  | replace info f =>
    rw [perform_replace, registry_onRegistry]
    exact h.insert info f true e.registry (hop f rfl) he
  | closeAll => exact h.closeAll e.registry he
  | _ => exact preserves_quiet h.toSurvives ⟨rfl, rfl⟩ he

/-- A run keeps what each of its operations keeps. -/
lemma preserves_performAll (h : Registry.Invariant I Allowed) {ops : List Operation}
    (hops : ∀ op ∈ ops, op.Hands Allowed) (he : I e.registry) : I (e.performAll ops).registry := by
  induction ops generalizing e with
  | nil => exact he
  | cons op ops ih =>
    have hnext : I (e.perform op).registry := preserves_perform h (hops op List.mem_cons_self) he
    exact ih (fun other hother => hops other (List.mem_cons_of_mem _ hother)) hnext

/-- Quiet operations keep what using functions keeps. -/
lemma preserves_quiets (h : Registry.Survives I) {ops : List Operation} (hops : ∀ op ∈ ops, op.Quiet)
    (he : I e.registry) : I (e.performAll ops).registry := by
  induction ops generalizing e with
  | nil => exact he
  | cons op ops ih =>
    have hnext : I (e.perform op).registry := preserves_quiet h (hops op List.mem_cons_self) he
    exact ih (fun other hother => hops other (List.mem_cons_of_mem _ hother)) hnext

end Engine

end EventRules
