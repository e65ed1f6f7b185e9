import EventRules.Proofs.Evaluation.Relation

/-!
# Evaluation with a log

What an evaluation does with functions can be read off a log: `Calls.logged` notes every function that
is resolved and every one that is applied, with its arguments and its result. The log is only written,
so the evaluation is the same as without it.
-/

namespace EventRules

open Run

variable {σ φ : Type}

/-- Something that is done with a function. -/
inductive Deed (φ : Type) where
  | resolved (name : String) (result : Except Halt φ)
  | applied (f : φ) (args : List Value) (result : Except Halt Value)

/-- The same calls with a log, in which the latest comes last. -/
def Calls.logged (calls : Calls σ φ) : Calls (σ × List (Deed φ)) φ where
  resolve name := fun (s, log) =>
    let (result, t) := calls.resolve name s
    (result, (t, log ++ [.resolved name result]))
  apply f args := fun (s, log) =>
    let (result, t) := calls.apply f args s
    (result, (t, log ++ [.applied f args result]))

/-- A state beside the same state with a log. -/
def logGuard (σ φ : Type) : Guard (σ × (σ × List (Deed φ))) where
  inv p := p.1 = p.2.1
  rel _ _ := True
  refl _ := trivial
  trans _ _ := trivial

/-- Every outcome corresponds to itself. -/
lemma outcomes_self {ε α : Type} {R : α → α → Prop} (hR : ∀ a, R a a) (x : Except ε α) :
    Outcomes R (fun _ => True) x x :=
  .of_yields (.trivial x) (fun a _ => hR a) fun _ _ => trivial

/-- Calls that write a log correspond to the same calls without one. -/
lemma Calls.corresponds_logged (calls : Calls σ φ) :
    calls.Corresponds (logGuard σ φ) calls.logged (fun _ => True) (fun _ f f' => f = f') (fun _ => True)
      fun _ => True where
  resolve := by
    rintro name - ⟨s, t, log⟩ hst
    obtain rfl : s = t := hst
    exact ⟨rfl, trivial, outcomes_self (fun _ => rfl) _⟩
  apply := by
    rintro ⟨s, t, log⟩ f _ args hst rfl -
    obtain rfl : s = t := hst
    exact ⟨rfl, trivial, outcomes_self (fun _ => ⟨rfl, trivial⟩) _⟩
  stable _ _ _ _ _ h := h

namespace Expr

/-- To keep a log changes neither the result nor the state. -/
theorem evaluate_logged (calls : Calls σ φ) (vars : Resolver) (e : Expr) (s : σ) (log : List (Deed φ)) :
    ∃ log', e.evaluate calls.logged vars (s, log) =
      ((e.evaluate calls vars s).1, ((e.evaluate calls vars s).2, log')) := by
  have he : Respects (fun _ => True) (fun _ => True) vars e :=
    ⟨Value.closed_true, fun _ _ => trivial, fun _ _ => .trivial _, fun _ _ => trivial⟩
  obtain ⟨hstate, -, houtcomes⟩ :=
    evaluate_relates (p := (s, s, log)) calls.corresponds_logged he (fun _ _ _ => trivial) rfl
  have hresult := houtcomes.eq fun _ _ hv => hv.1
  exact ⟨(e.evaluate calls.logged vars (s, log)).2.2, Prod.ext hresult.symm (Prod.ext hstate.symm rfl)⟩

end Expr

end EventRules
