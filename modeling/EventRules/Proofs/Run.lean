import EventRules.Function.Registry
import Mathlib.Tactic.Lemma

/-!
# Runs

How computations go on that may fail and act on a state. `Yields` says of a result what its value
and its error are like. `Run.Guard` is an invariant of states together with a relation between
earlier and later ones. `Run.Keeps` says of a computation that it keeps both, whether it fails or
not, and `Run.Relates` says it of two computations side by side, the results of which are related as
well. Sequences do so where their steps do.
-/

namespace EventRules

variable {ε α β : Type}

/-- A sequence of results has a value if both have one. -/
lemma bind_eq_ok {x : Except ε α} {f : α → Except ε β} {b : β} :
    x >>= f = .ok b ↔ ∃ a, x = .ok a ∧ f a = .ok b := by
  cases x with
  | ok a =>
    refine ⟨fun h => ⟨a, rfl, h⟩, ?_⟩
    rintro ⟨_, ⟨⟩, h⟩
    exact h
  | error err => exact ⟨nofun, nofun⟩

/-- A sequence of results fails if the first one does, or else if the second one does. -/
lemma bind_eq_error {x : Except ε α} {f : α → Except ε β} {err : ε} :
    x >>= f = .error err ↔ x = .error err ∨ ∃ a, x = .ok a ∧ f a = .error err := by
  cases x with
  | ok a =>
    refine ⟨fun h => .inr ⟨a, rfl, h⟩, ?_⟩
    rintro (⟨⟨⟩⟩ | ⟨_, ⟨⟩, h⟩)
    exact h
  | error _ =>
    refine ⟨fun h => .inl (congrArg Except.error (Except.error.inj h)), ?_⟩
    rintro (⟨⟨⟩⟩ | ⟨_, ⟨⟩, -⟩)
    rfl

/-- A function of a result has a value just if the result does. -/
lemma map_eq_ok {x : Except ε α} {f : α → β} {b : β} : x.map f = .ok b ↔ ∃ a, x = .ok a ∧ f a = b := by
  cases x <;> simp [Except.map]

/-- A function of a result fails just if the result does. -/
lemma map_eq_error {x : Except ε α} {f : α → β} {err : ε} : x.map f = .error err ↔ x = .error err := by
  cases x <;> simp [Except.map]

/-- The value of a result has a property, or its error has one. -/
inductive Yields (P : α → Prop) (E : ε → Prop) : Except ε α → Prop
  | ok {a : α} : P a → Yields P E (.ok a)
  | error {err : ε} : E err → Yields P E (.error err)

namespace Yields

variable {P P' : α → Prop} {Q : β → Prop} {E E' : ε → Prop} {x : Except ε α} {f : α → Except ε β} {g : α → β}

/-- A sequence yields what its second step does, from what the first one yields. -/
lemma bind (h : Yields P E x) (hf : ∀ a, P a → Yields Q E (f a)) : Yields Q E (x >>= f) := by
  cases h with
  | ok ha => exact hf _ ha
  | error herr => exact .error herr

/-- A function of a result yields what it makes of the values. -/
lemma map (h : Yields P E x) (hg : ∀ a, P a → Q (g a)) : Yields Q E (x.map g) := by
  cases h with
  | ok ha => exact .ok (hg _ ha)
  | error herr => exact .error herr

/-- Weaker properties are yielded as well. -/
lemma mono (h : Yields P E x) (hP : ∀ a, P a → P' a) (hE : ∀ err, E err → E' err) : Yields P' E' x := by
  cases h with
  | ok ha => exact .ok (hP _ ha)
  | error herr => exact .error (hE _ herr)

/-- A failure has the property of errors. -/
lemma of_error {err : ε} (h : Yields P E (.error err)) : E err := by
  cases h with
  | error herr => exact herr

/-- As a part of a computation that might break off, the result fails with the same errors. -/
lemma failure {x : Except Error α} {E : Halt → Prop} (h : Yields P (fun err => E (.failure err)) x) :
    Yields P E (liftM x : Except Halt α) := by
  cases h with
  | ok ha => exact .ok ha
  | error herr => exact .error herr

/-- As a part of such a computation, a result that can only break off does so with the same panics. -/
lemma panic {x : Except Panic α} {E : Halt → Prop} (h : Yields P (fun p => E (.panic p)) x) :
    Yields P E (liftM x : Except Halt α) := by
  cases h with
  | ok ha => exact .ok ha
  | error herr => exact .error herr

/-- Nothing is asked of a result. -/
protected lemma trivial (x : Except ε α) : Yields (fun _ => True) (fun _ => True) x := by
  cases x with
  | ok a => exact .ok trivial
  | error err => exact .error trivial

end Yields

/-- Two results are related values, or the same error, which has a property. -/
inductive Outcomes (R : α → β → Prop) (E : ε → Prop) : Except ε α → Except ε β → Prop
  | ok {a : α} {b : β} : R a b → Outcomes R E (.ok a) (.ok b)
  | error {err : ε} : E err → Outcomes R E (.error err) (.error err)

/-- A result is related to itself where its values are. -/
lemma Outcomes.of_yields {P : α → Prop} {E E' : ε → Prop} {R : α → α → Prop} {x : Except ε α}
    (h : Yields P E x) (hP : ∀ a, P a → R a a) (hE : ∀ err, E err → E' err) : Outcomes R E' x x := by
  cases h with
  | ok ha => exact .ok (hP _ ha)
  | error herr => exact .error (hE _ herr)

/-- The first of two related results has a value that is related to something, or an error with the property. -/
lemma Outcomes.left {R : α → β → Prop} {E : ε → Prop} {x : Except ε α} {y : Except ε β}
    (h : Outcomes R E x y) : Yields (fun a => ∃ b, R a b) E x := by
  cases h with
  | ok hab => exact .ok ⟨_, hab⟩
  | error herr => exact .error herr

/-- Results stay related as parts of computations that might break off. -/
lemma Outcomes.failure {R : α → β → Prop} {E : Halt → Prop} {x : Except Error α} {y : Except Error β}
    (h : Outcomes R (fun err => E (.failure err)) x y) :
    Outcomes R E (liftM x : Except Halt α) (liftM y : Except Halt β) := by
  cases h with
  | ok hab => exact .ok hab
  | error herr => exact .error herr

/-- Related results are the same if the relation is equality. -/
lemma Outcomes.eq {R : α → α → Prop} {E : ε → Prop} {x y : Except ε α} (h : Outcomes R E x y)
    (hR : ∀ a b, R a b → a = b) : x = y := by
  cases h with
  | ok hab => rw [hR _ _ hab]
  | error _ => rfl

/-- Where results are related and what follows them is, the sequences are. -/
lemma Outcomes.bind {γ δ : Type} {R : α → β → Prop} {R' : γ → δ → Prop} {E : ε → Prop} {x : Except ε α}
    {y : Except ε β} {f : α → Except ε γ} {k : β → Except ε δ} (h : Outcomes R E x y)
    (hf : ∀ a b, y = .ok b → R a b → Outcomes R' E (f a) (k b)) : Outcomes R' E (x >>= f) (y >>= k) := by
  cases h with
  | ok hab => exact hf _ _ rfl hab
  | error herr => exact .error herr

namespace Run

variable {σ τ : Type} {x : ExceptT ε (StateM σ) α} {f : α → ExceptT ε (StateM σ) β} {s t : σ} {a : α} {err : ε}

/-- A computation that gives a result goes on with it. -/
lemma bind_ok (h : x s = (.ok a, t)) : (x >>= f) s = f a t := by
  simp [bind, ExceptT.bind, ExceptT.mk, StateT.bind, ExceptT.bindCont, h]

/-- A computation that fails does not go on. -/
lemma bind_error (h : x s = (.error err, t)) : (x >>= f) s = (.error err, t) := by
  simp [bind, ExceptT.bind, ExceptT.mk, StateT.bind, ExceptT.bindCont, h]
  rfl

/-- The result of a sequence, in which what follows starts where the first computation ended. -/
lemma bind_result (x : ExceptT ε (StateM σ) α) (f : α → ExceptT ε (StateM σ) β) (s : σ) :
    ((x >>= f) s).1 = (x s).1 >>= fun a => (f a (x s).2).1 := by
  cases hx : x s with
  | mk result t =>
    cases result with
    | ok a =>
      rw [bind_ok hx]
      rfl
    | error err =>
      rw [bind_error hx]
      rfl

/-- To change the result of a computation without effects is a further step. -/
lemma lift_failure_map (result : Except Error α) (f : α → β) :
    (liftM (result.map f) : Evaluation σ β) = (liftM result : Evaluation σ α) >>= fun a => pure (f a) := by
  cases result <;> rfl

/-- A computation that can only fail has the same value as a part of one that might break off. -/
lemma lift_ok {x : Run σ α} (h : x s = (.ok a, t)) : (liftM x : Evaluation σ α) s = (.ok a, t) :=
  congrArg (fun p : Except Error α × σ => (p.1.mapError Halt.failure, p.2)) h

/-- A computation that can only fail fails with the same error as a part of one that might break off. -/
lemma lift_error {x : Run σ α} {err : Error} (h : x s = (.error err, t)) :
    (liftM x : Evaluation σ α) s = (.error (.failure err), t) :=
  congrArg (fun p : Except Error α × σ => (p.1.mapError Halt.failure, p.2)) h

/-- A part of an evaluation that has a value had it by itself. -/
lemma of_lift_ok {x : Run σ α} (h : (liftM x : Evaluation σ α) s = (.ok a, t)) : x s = (.ok a, t) := by
  cases hx : x s with
  | mk result u =>
    cases result with
    | ok b =>
      rw [lift_ok hx] at h
      cases h
      rfl
    | error err =>
      rw [lift_error hx] at h
      cases h

/-- An invariant of states, and a relation between the states before and after something was done. -/
structure Guard (σ : Type) where
  inv : σ → Prop
  rel : σ → σ → Prop
  refl : ∀ s, rel s s
  trans : ∀ {s t u}, rel s t → rel t u → rel s u

/-- The computation keeps the invariant, and relates the state before it to the state after it. -/
def Keeps (g : Guard σ) (x : ExceptT ε (StateM σ) α) : Prop :=
  ∀ s, g.inv s → g.inv (x s).2 ∧ g.rel s (x s).2

/-- On states with the invariant the computations are the same, and keep the invariant and the
relation. -/
def Agrees (g : Guard σ) (x y : ExceptT ε (StateM σ) α) : Prop :=
  ∀ s, g.inv s → x s = y s ∧ g.inv (x s).2 ∧ g.rel s (x s).2

/-- A computation that agrees with another keeps what the two keep. -/
lemma Agrees.keeps {g : Guard σ} {y : ExceptT ε (StateM σ) α} (h : Agrees g x y) : Keeps g x :=
  fun s hs => (h s hs).2

/-- Started in a pair of states, the computations keep the invariant and the relation, and their
results are related in the states they end in. -/
structure Relates (g : Guard (σ × τ)) (R : σ × τ → α → β → Prop) (E : ε → Prop) (x : ExceptT ε (StateM σ) α)
    (y : ExceptT ε (StateM τ) β) (p : σ × τ) : Prop where
  inv : g.inv ((x p.1).2, (y p.2).2)
  rel : g.rel p ((x p.1).2, (y p.2).2)
  outcomes : Outcomes (R ((x p.1).2, (y p.2).2)) E (x p.1).1 (y p.2).1

namespace Relates

variable {γ δ : Type} {g : Guard (σ × τ)} {R : σ × τ → α → β → Prop} {R' : σ × τ → γ → δ → Prop} {E : ε → Prop}
  {p : σ × τ} {y : ExceptT ε (StateM τ) β}

/-- Related results are related as computations that do nothing to the states. -/
lemma lift {result : Except ε α} {result' : Except ε β} (hp : g.inv p)
    (h : Outcomes (R p) E result result') :
    Relates g R E (liftM result : ExceptT ε (StateM σ) α) (liftM result' : ExceptT ε (StateM τ) β) p :=
  ⟨hp, g.refl p, h⟩

/-- Related values are related as computations that do nothing to the states. -/
lemma pure {a : α} {b : β} (hp : g.inv p) (h : R p a b) :
    Relates g R E (Pure.pure a : ExceptT ε (StateM σ) α) (Pure.pure b : ExceptT ε (StateM τ) β) p :=
  ⟨hp, g.refl p, .ok h⟩

/-- Sequences are related where their steps are. -/
lemma bind {f : α → ExceptT ε (StateM σ) γ} {k : β → ExceptT ε (StateM τ) δ} (h : Relates g R E x y p)
    (hf : ∀ q a b, g.inv q → g.rel p q → R q a b → Relates g R' E (f a) (k b) q) :
    Relates g R' E (x >>= f) (y >>= k) p := by
  obtain ⟨hinv, hrel, houtcomes⟩ := h
  cases hx : x p.1 with
  | mk result s =>
    cases hy : y p.2 with
    | mk result' t =>
      rw [hx, hy] at hinv hrel houtcomes
      cases houtcomes with
      | ok hab =>
        obtain ⟨hinv', hrel', houtcomes'⟩ := hf (s, t) _ _ hinv hrel hab
        refine ⟨?_, ?_, ?_⟩ <;> rw [bind_ok hx, bind_ok hy]
        · exact hinv'
        · exact g.trans hrel hrel'
        · exact houtcomes'
      | error herr =>
        refine ⟨?_, ?_, ?_⟩ <;> rw [bind_error hx, bind_error hy]
        · exact hinv
        · exact hrel
        · exact .error herr

end Relates

end Run

end EventRules
