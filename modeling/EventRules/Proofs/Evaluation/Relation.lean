import EventRules.Proofs.Evaluation.Operators
import EventRules.Proofs.Evaluation.Shape

/-!
# Evaluations side by side

Evaluation reaches its state through the functions that it resolves and applies, and through nothing
else. Where two systems of functions correspond, evaluations on them do: they have the same value or
fail with the same error. A function is resolved before its arguments are evaluated and applied after
them, so whatever makes it ready must last while other functions are resolved and applied.
-/

namespace EventRules

open Run

variable {σ τ φ ψ : Type}

/-- Resolving functions with certain names and applying them has the same results in two systems and
keeps what `g` says. Functions that were resolved are ready, stay ready, and may be applied to values
with a property, as long as they are. -/
structure Calls.Corresponds (g : Guard (σ × τ)) (calls : Calls σ φ) (calls' : Calls τ ψ) (names : String → Prop)
    (Ready : σ × τ → φ → ψ → Prop) (V : Value → Prop) (E : Halt → Prop) : Prop where
  resolve : ∀ name, names name → ∀ p, g.inv p → Relates g Ready E (calls.resolve name) (calls'.resolve name) p
  apply : ∀ p f f' args, g.inv p → Ready p f f' → (∀ v ∈ args, V v) →
    Relates g (fun _ v w => v = w ∧ V v) E (calls.apply f args) (calls'.apply f' args) p
  stable : ∀ p q f f', g.rel p q → Ready p f f' → Ready q f f'

/-- What evaluation makes of values and of its ends without one: a property of values and one of such ends that
survive. -/
structure Expr.Respects (V : Value → Prop) (E : Halt → Prop) (vars : Resolver) (e : Expr) : Prop where
  closed : Value.Closed V
  fault : ∀ err : Error, err.isFault = true → E (.failure err)
  lookup : ∀ name, .variable name ∈ e.nodes → Yields V (fun p => E (.panic p)) (vars.lookup name)
  literals : ∀ v, .literal v ∈ e.nodes → V v

namespace Expr

variable {g : Guard (σ × τ)} {calls : Calls σ φ} {calls' : Calls τ ψ} {names : String → Prop}
  {Ready : σ × τ → φ → ψ → Prop} {V : Value → Prop} {E : Halt → Prop} {vars : Resolver} {e a : Expr} {p : σ × τ}

/-- The names that are called in an expression are among those given. -/
def CallsOnly (names : String → Prop) (e : Expr) : Prop :=
  ∀ name args, .call name args ∈ e.nodes → names name

/-- An expression calls nothing but the functions that it lists. -/
lemma callsOnly_functionNames (e : Expr) : CallsOnly (· ∈ e.functionNames) e := by
  intro name args h
  simp only [functionNames, List.mem_eraseDups, List.mem_filterMap]
  exact ⟨_, h, rfl⟩

/-- The parts of an expression call nothing else than it does. -/
lemma CallsOnly.part (h : CallsOnly names e) (ha : a ∈ e.parts) : CallsOnly names a :=
  fun name args hn => h name args (mem_nodes_of_mem_parts ha hn)

/-- The parts of an expression respect what it respects. -/
lemma Respects.part (h : Respects V E vars e) (ha : a ∈ e.parts) : Respects V E vars a :=
  ⟨h.closed, h.fault, fun name hn => h.lookup name (mem_nodes_of_mem_parts ha hn),
    fun v hn => h.literals v (mem_nodes_of_mem_parts ha hn)⟩

/-- To combine values with a property gives such a value, or a fault. -/
lemma combine_yields (h : Respects V E vars e) {values : List Value} (hvalues : ∀ v ∈ values, V v) :
    Yields V E (e.combine vars values) := by
  have hscalar {x : Except Error Value} (hx : Yields (·.isScalar = true) (·.isFault = true) x) :
      Yields V E (liftM x : Except Halt Value) := (hx.mono h.closed.scalar h.fault).failure
  have hnull : Yields V E (.ok .null) := .ok (h.closed.scalar .null rfl)
  cases e with
  | literal v => exact .ok (h.literals v (mem_nodes_self _))
  | «variable» name => exact (h.lookup name (mem_nodes_self _)).panic
  | binary op left right =>
    rcases values with _ | ⟨a, _ | ⟨b, _ | ⟨c, rest⟩⟩⟩
    · exact hnull
    · exact hnull
    · exact hscalar (BinaryOp.eval_yields op a b)
    · exact hnull
  | unary op operand =>
    rcases values with _ | ⟨a, _ | ⟨b, rest⟩⟩
    · cases op <;> exact hnull
    · cases op with
      | not => exact hscalar ((Value.test_yields _ a).map fun _ _ => rfl)
      | «exists» => exact .ok (h.closed.scalar _ rfl)
      | negate => exact hscalar (Value.negate_yields a)
    · cases op <;> exact hnull
  | list items => exact .ok ((h.closed.list values).2 hvalues)
  | map entries =>
    refine .ok (h.closed.map _ fun p hp => ?_)
    exact hvalues p.2 (List.of_mem_zip hp).2
  | call name args => exact hnull
  | ifThen c t => exact hnull
  | ifElse c t f => exact hnull

/-- A choice that stops does so with a boolean or null. -/
lemma stop_scalar {c : Choice} (hc : e.choice? = some c) : c.stop.isScalar = true := by
  cases e with
  | binary op left right => cases op <;> cases hc <;> rfl
  | ifThen c t =>
    cases hc
    rfl
  | ifElse c t f =>
    cases hc
    rfl
  | _ => cases hc

/-- A choice that goes on ends with the value of its part, or with a test of it. -/
lemma finish_yields {c : Choice} (h : Respects V E vars e) (hc : e.choice? = some c) {v : Value} (hv : V v) :
    Yields V (fun err => E (.failure err)) (c.finish v) := by
  have htest (place : String) : Yields V (fun err => E (.failure err)) ((v.test place).map .bool) :=
    ((v.test_yields place).map fun b _ => h.closed.scalar (.bool b) rfl).mono (fun _ hv => hv) h.fault
  cases e with
  | binary op left right => cases op <;> cases hc <;> exact htest _
  | ifThen c t =>
    cases hc
    exact .ok hv
  | ifElse c t f =>
    cases hc
    exact .ok hv
  | _ => cases hc

/-- Items are evaluated side by side if each of them is. -/
lemma evaluateItems_relates {items : List Expr}
    (h : ∀ a ∈ items, ∀ p, g.inv p →
      Relates g (fun _ v w => v = w ∧ V v) E (a.evaluate calls vars) (a.evaluate calls' vars) p)
    (hp : g.inv p) :
    Relates g (fun _ vs ws => vs = ws ∧ ∀ v ∈ vs, V v) E (evaluateItems calls vars items)
      (evaluateItems calls' vars items) p := by
  induction items generalizing p with
  | nil =>
    rw [evaluateItems, evaluateItems]
    exact .pure hp ⟨rfl, fun _ hv => absurd hv List.not_mem_nil⟩
  | cons a items ih =>
    rw [evaluateItems, evaluateItems]
    refine (h a List.mem_cons_self p hp).bind ?_
    rintro q v _ hq - ⟨rfl, hv⟩
    refine (ih (fun b hb => h b (List.mem_cons_of_mem _ hb)) hq).bind ?_
    rintro q vs _ hq - ⟨rfl, hvs⟩
    exact .pure hq ⟨rfl, List.forall_mem_cons.2 ⟨hv, hvs⟩⟩

/-- Evaluations correspond where the functions that they call do. -/
theorem evaluate_relates (h : calls.Corresponds g calls' names Ready V E) (he : Respects V E vars e)
    (hnames : CallsOnly names e) (hp : g.inv p) :
    Relates g (fun _ v w => v = w ∧ V v) E (e.evaluate calls vars) (e.evaluate calls' vars) p := by
  induction e using parts_induction generalizing p with
  | h e ih =>
    have hparts (a : Expr) (ha : a ∈ e.parts) (p : σ × τ) (hp : g.inv p) :=
      ih a ha (he.part ha) (hnames.part ha) hp
    have hsame {x : Except Halt Value} (hx : Yields V E x) {q : σ × τ} (hq : g.inv q) :
        Relates g (fun _ v w => v = w ∧ V v) E (liftM x : Evaluation σ Value) (liftM x : Evaluation τ Value) q :=
      .lift hq (.of_yields hx (fun v hv => ⟨rfl, hv⟩) fun _ herr => herr)
    by_cases hcall : e.isCall = true
    · cases e with
      | call name args =>
        rw [evaluate_call, evaluate_call]
        refine (h.resolve name (hnames name args (mem_nodes_self _)) p hp).bind ?_
        intro q f f' hq _ hready
        refine (evaluateItems_relates hparts hq).bind ?_
        -- The function was made ready before its arguments were evaluated, and still is.
        rintro q' vs _ hq' hrel ⟨rfl, hvs⟩
        exact h.apply q' f f' vs hq' (h.stable q q' f f' hrel hready) hvs
      | _ => cases hcall
    · rw [Bool.not_eq_true] at hcall
      cases hc : e.choice? with
      | some c =>
        rw [evaluate_choice hc, evaluate_choice hc]
        refine (hparts (e.part 0) (part_mem_parts hc true List.mem_cons_self) p hp).bind ?_
        rintro q v _ hq - ⟨rfl, hv⟩
        have htest : Yields (fun _ => True) E (liftM (v.test c.place) : Except Halt Bool) :=
          ((v.test_yields c.place).mono (fun _ hb => hb) he.fault).failure
        have houtcome : Outcomes (fun b b' => b = b') E (liftM (v.test c.place) : Except Halt Bool)
            (liftM (v.test c.place)) := .of_yields htest (fun _ _ => rfl) fun _ herr => herr
        refine (Relates.lift (R := fun _ b b' => b = b') hq houtcome).bind ?_
        rintro q b _ hq - rfl
        -- The tests had the same outcome, so the same part comes next, if any.
        cases hnext : c.next b with
        | some i =>
          have hi : i ∈ 0 :: (c.next b).toList := List.mem_cons_of_mem _ (Option.mem_toList.2 hnext)
          refine (hparts (e.part i) (part_mem_parts hc b hi) q hq).bind ?_
          rintro q v _ hq - ⟨rfl, hv⟩
          exact hsame (finish_yields he hc hv).failure hq
        | none => exact .pure hq ⟨rfl, he.closed.scalar _ (stop_scalar hc)⟩
      | none =>
        rw [evaluate_combine hcall hc, evaluate_combine hcall hc]
        refine (evaluateItems_relates hparts hp).bind ?_
        rintro q vs _ hq - ⟨rfl, hvs⟩
        exact hsame (combine_yields he hvs) hq

end Expr

end EventRules
