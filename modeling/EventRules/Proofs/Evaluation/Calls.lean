import EventRules.Proofs.Evaluation.Relation

/-!
# What evaluation does to its state

What resolving and applying functions keeps, evaluation keeps: `Calls.Respects` collects what is asked
of them for the names that the expression calls. Where two ways to resolve functions do the same, so do
the evaluations.
-/

namespace EventRules

open Run

variable {σ φ : Type}

/-- Resolving functions with certain names and applying them keeps what `g` says. A function that
was resolved is ready, stays ready, and may be applied as long as it is. -/
structure Calls.Respects (g : Guard σ) (calls : Calls σ φ) (names : String → Prop) (Ready : σ → φ → Prop) :
    Prop where
  resolve : ∀ name, names name → Keeps g (calls.resolve name)
  ready : ∀ name, names name → ∀ s f t, g.inv s → calls.resolve name s = (.ok f, t) → Ready t f
  apply : ∀ s f args, g.inv s → Ready s f → g.inv (calls.apply f args s).2 ∧ g.rel s (calls.apply f args s).2
  stable : ∀ s t f, g.rel s t → Ready s f → Ready t f

/-- Another way to resolve functions that does the same where the invariant holds. -/
structure Calls.SameWhere (g : Guard σ) (calls calls' : Calls σ φ) (names : String → Prop) : Prop where
  resolve : ∀ name, names name → ∀ s, g.inv s → calls.resolve name s = calls'.resolve name s
  apply : calls'.apply = calls.apply

/-- The pairs of a state with itself. -/
def Run.Guard.diagonal (g : Guard σ) : Guard (σ × σ) where
  inv p := p.1 = p.2 ∧ g.inv p.1
  rel p q := g.rel p.1 q.1
  refl p := g.refl p.1
  trans := g.trans

namespace Expr

variable {g : Guard σ} {calls calls' : Calls σ φ} {names : String → Prop} {Ready : σ → φ → Prop}
  {V : Value → Prop} {E : Halt → Prop} {vars : Resolver} {e : Expr} {s : σ}

/-- Calls that respect an invariant correspond to any calls that do the same for the names in question. -/
lemma corresponds_diagonal (h : calls.Respects g names Ready) (hsame : calls.SameWhere g calls' names)
    (hresolve : ∀ name, names name → ∀ s, g.inv s → Yields (fun _ => True) E (calls.resolve name s).1)
    (happly : ∀ s f args, g.inv s → Ready s f → (∀ v ∈ args, V v) → Yields V E (calls.apply f args s).1) :
    calls.Corresponds g.diagonal calls' names (fun p f f' => f = f' ∧ Ready p.1 f) V E where
  resolve name hname := by
    rintro ⟨s, t⟩ ⟨hst, hs⟩
    obtain rfl : s = t := hst
    obtain ⟨hinv, hrel⟩ := h.resolve name hname s hs
    have heq := hsame.resolve name hname s hs
    have hready : ∀ f, (calls.resolve name s).1 = .ok f → Ready (calls.resolve name s).2 f :=
      fun f hf => h.ready name hname s f _ hs (Prod.ext hf rfl)
    have hyields := hresolve name hname s hs
    refine ⟨⟨congrArg Prod.snd heq, hinv⟩, hrel, ?_⟩
    show Outcomes _ _ (calls.resolve name s).1 (calls'.resolve name s).1
    rw [← heq]
    cases hres : (calls.resolve name s).1 with
    | ok f => exact .ok ⟨rfl, hready f hres⟩
    | error err =>
      rw [hres] at hyields
      exact .error hyields.of_error
  apply := by
    rintro ⟨s, t⟩ f _ args ⟨hst, hs⟩ ⟨rfl, hready⟩ hargs
    obtain rfl : s = t := hst
    obtain ⟨hinv, hrel⟩ := h.apply s f args hs hready
    rw [hsame.apply]
    exact ⟨⟨rfl, hinv⟩, hrel, .of_yields (happly s f args hs hready hargs) (fun v hv => ⟨rfl, hv⟩) fun _ herr => herr⟩
  stable := by
    rintro p q f _ hrel ⟨rfl, hready⟩
    exact ⟨rfl, h.stable p.1 q.1 f hrel hready⟩

/-- Evaluation is the same where the called functions are resolved in the same way, and keeps what
resolving and applying them keeps. -/
theorem evaluate_agrees (h : calls.Respects g names Ready) (hsame : calls.SameWhere g calls' names)
    (hnames : CallsOnly names e) : Agrees g (e.evaluate calls vars) (e.evaluate calls' vars) := by
  intro s hs
  have he : Respects (fun _ => True) (fun _ => True) vars e :=
    ⟨Value.closed_true, fun _ _ => trivial, fun _ _ => .trivial _, fun _ _ => trivial⟩
  have hcorresponds := corresponds_diagonal h hsame (fun _ _ _ _ => .trivial _) fun _ _ _ _ _ _ => .trivial _
  obtain ⟨⟨hstate, hinv⟩, hrel, houtcomes⟩ := evaluate_relates (p := (s, s)) hcorresponds he hnames ⟨rfl, hs⟩
  refine ⟨Prod.ext ?_ hstate, hinv, hrel⟩
  generalize (e.evaluate calls vars (s, s).1).1 = x, (e.evaluate calls' vars (s, s).2).1 = y at houtcomes
  cases houtcomes with
  | ok hv => rw [hv.1]
  | error _ => rfl

/-- Evaluation keeps what resolving and applying the called functions keeps. -/
lemma evaluate_keeps (h : calls.Respects g names Ready) (hnames : CallsOnly names e) :
    Keeps g (e.evaluate calls vars) :=
  (evaluate_agrees h ⟨fun _ _ _ _ => rfl, rfl⟩ hnames).keeps

/-- Evaluation ends without a value in no way but those of the called functions, the operators and the variables. -/
theorem evaluate_yields (h : calls.Respects g names Ready)
    (hresolve : ∀ name, names name → ∀ s, g.inv s → Yields (fun _ => True) E (calls.resolve name s).1)
    (happly : ∀ s f args, g.inv s → Ready s f → (∀ v ∈ args, V v) → Yields V E (calls.apply f args s).1)
    (he : Respects V E vars e) (hnames : CallsOnly names e) (hs : g.inv s) :
    Yields V E (e.evaluate calls vars s).1 := by
  have hcorresponds := corresponds_diagonal h ⟨fun _ _ _ _ => rfl, rfl⟩ hresolve happly
  obtain ⟨-, -, houtcomes⟩ := evaluate_relates (p := (s, s)) hcorresponds he hnames ⟨rfl, hs⟩
  have hleft := houtcomes.left
  exact hleft.mono (fun v hv => hv.elim fun w hw => hw.2) fun _ herr => herr

end Expr

end EventRules
