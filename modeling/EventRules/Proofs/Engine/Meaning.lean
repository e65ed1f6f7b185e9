import EventRules.Proofs.Engine.Transparency
import EventRules.Proofs.Evaluation.Resolver
import EventRules.Proofs.Parser.Literals
import EventRules.Proofs.Registry.Pure

/-!
# Engines of pure functions

What a source means to an engine over pure functions depends on nothing but the answers of its registry
and its limit of nesting. Evaluating changes neither, so that two engines with the same answers and the
same limit have the same values for a source, whatever they evaluated before.
-/

namespace EventRules

namespace Engine

variable {context : Context} {A : Meanings} {depth : Nat} {e : Engine} {vars : Resolver}

/-- The value of a source over functions without effects. -/
def meaning (A : Meanings) (depth : Nat) (source : String) (vars : Resolver) : Except Halt Value := do
  let x ← Expression.parse source depth
  x.root.meaning A vars

/-- A sound engine with a limit of nesting, over pure functions that answer as told. -/
structure Means (context : Context) (A : Meanings) (depth : Nat) (e : Engine) : Prop where
  sound : e.Sound
  depth_eq : e.config.maxDepth = depth
  answers : e.registry.Answers context A

namespace Means

/-- What sources mean does not change by quiet operations. -/
lemma performAll (h : Means context A depth e) {ops : List Operation} (hops : ∀ op ∈ ops, op.Quiet) :
    Means context A depth (e.performAll ops) := by
  have halike := h.sound.alike.performAll ops
  exact ⟨halike.sound_left, halike.depth_left.trans h.depth_eq,
    preserves_quiets (Registry.survives_answers context A) hops h.answers⟩

/-- The engine has the value of a source that the answers of its registry give it, and the value has what
the values of variables have and evaluation keeps. -/
theorem evaluate {V : Value → Prop} (h : Means context A depth e) (hV : Value.PureClosed context V) (source : String)
    (hvars : ∀ name, V (vars name)) :
    Outcomes (fun v w => v = w ∧ V v) (fun _ => True) (Engine.evaluate source vars e).1
      (meaning A depth source vars) := by
  have hparse := h.sound.parse source
  rw [h.depth_eq] at hparse
  rw [meaning, ← hparse]
  have hregistry : (parse source e).2.registry = e.registry := rfl
  cases hp : parse source e with
  | mk result next =>
    rw [hp] at hparse hregistry
    cases result with
    | error err =>
      rw [evaluate_error hp]
      exact .error trivial
    | ok x =>
      rw [evaluate_ok hp]
      show Outcomes _ _ (x.root.evaluate Registry.calls vars next.registry).1 (x.root.meaning A vars)
      rw [hregistry]
      -- A parsed expression has scalars as literals, which have every property that evaluation keeps.
      have hplain := Expression.plain_of_parse hparse.symm
      exact (h.answers.evaluate hV ⟨hV.closed, fun _ _ => trivial, fun name _ => Resolver.lookup_closed hV.closed hvars name,
        fun v hv => hV.closed.scalar v (hplain v hv)⟩).1

/-- Evaluation gives the meaning of the source, whatever is in the cache. -/
lemma evaluate_result (h : Means context A depth e) (source : String) (vars : Resolver) :
    (Engine.evaluate source vars e).1 = meaning A depth source vars :=
  (h.evaluate (Value.pureClosed_true context) source fun _ => trivial).eq fun _ _ => And.left

/-- To parse the source anew makes no difference. -/
lemma evaluateAfresh_result (h : Means context A depth e) (source : String) (vars : Resolver) :
    (evaluateAfresh source vars e).1 = meaning A depth source vars := by
  rw [← h.sound.alike.evaluate, h.evaluate_result]

/-- Evaluation leaves an engine with the same meanings. -/
lemma evaluate_next (h : Means context A depth e) (source : String) (vars : Resolver) :
    Means context A depth (Engine.evaluate source vars e).2 :=
  h.performAll (List.forall_mem_singleton.2 (show (Operation.evaluate source vars).Quiet from ⟨rfl, rfl⟩))

/-- A sequence of steps after which sources mean what they did before leaves their meaning, too. -/
lemma sequential (context : Context) (A : Meanings) (depth : Nat) :
    Sequential fun x => ∀ e, Means context A depth e → Means context A depth (x e).2 where
  pure _ := fun _ h => h
  bind := by
    intro α β x f hx hf e h
    exact hf (x e).1 (x e).2 (hx e h)

/-- A pair of engines over pure functions with the same answers. -/
def guard (context : Context) (A : Meanings) (depth : Nat) : Run.Guard (Engine × Engine) where
  inv p := Means context A depth p.1 ∧ Means context A depth p.2
  rel _ _ := True
  refl _ := trivial
  trans _ _ := trivial

/-- Two engines with the same meanings stay related by an evaluation, and its values are well-formed. -/
lemma evaluate_relates {p : Engine × Engine} (hp : (guard context A depth).inv p) (source : String)
    (hvars : ∀ name, (vars name).WellFormed) :
    Run.Relates (guard context A depth) (fun _ v w => v = w ∧ v.WellFormed) (fun _ => True)
      (Engine.evaluate source vars) (Engine.evaluate source vars) p := by
  obtain ⟨hleft, hright⟩ := hp
  refine ⟨⟨hleft.evaluate_next source vars, hright.evaluate_next source vars⟩, trivial, ?_⟩
  rw [hright.evaluate_result]
  exact hleft.evaluate (Value.pureClosed_wellFormed context) source hvars

end Means

/-- An engine over pure functions that was given no other functions since answers in some way. -/
lemma means_performAll {config : EngineConfig} (hcapacity : 1 ≤ config.cacheCapacity) (hdepth : 1 ≤ config.maxDepth)
    (context : Context) {builtins : List Builtin} (hbuiltins : ∀ b ∈ builtins, b.function.Pure context)
    {ops : List Operation} (hops : ∀ op ∈ ops, op.Hands (Function.Pure context)) :
    ∃ e₀, create config (builtins.foldl Registry.addBuiltin { context }) = .ok e₀ ∧
      ∃ A, Means context A config.maxDepth (e₀.performAll ops) := by
  have hlasting := Registry.lasting_pure context
  obtain ⟨e₀, he₀, hconfig, hregistry, hsound⟩ :=
    create_ok hcapacity hdepth (builtins.foldl Registry.addBuiltin { context })
  have hstart : e₀.registry.Populated context (Registry.PureEntry context) [] := by
    rw [hregistry]
    exact (Registry.Populated.empty context _).addBuiltins fun b hb id =>
      hlasting.fresh b.info id b.function (hbuiltins b hb)
  have hpopulated := preserves_performAll (Registry.invariant_populated hlasting []) hops hstart
  have halike := hsound.alike.performAll ops
  exact ⟨e₀, he₀, _, halike.sound_left, halike.depth_left.trans (congrArg _ hconfig), hpopulated, rfl⟩

end Engine

end EventRules
