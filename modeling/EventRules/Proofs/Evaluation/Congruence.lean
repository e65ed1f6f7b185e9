import EventRules.Proofs.Evaluation.Orderly
import EventRules.Proofs.Expr.Replacement

/-!
# Evaluation with a part replaced

What becomes of an evaluation if one part of a node is replaced by an expression that does the same
or fails where the other one fails. Up to the replaced part both evaluations are the same, and after
it as well, unless the part fails: then both fail, each with the error of its own part. `Forks` says
this of two outcomes.
-/

namespace EventRules.Expr

variable {σ φ α : Type} {calls : Calls σ φ} {vars : Resolver} {e l r : Expr} {s : σ} {i : Nat}

/-- The expressions do the same from a state, or both fail in the same last state. -/
def Matches (calls : Calls σ φ) (vars : Resolver) (l r : Expr) (s : σ) : Prop :=
  l.evaluate calls vars s = r.evaluate calls vars s ∨
    ∃ err err' t, l.evaluate calls vars s = (.error err, t) ∧ r.evaluate calls vars s = (.error err', t)

/-- Two outcomes are the same, or they are the failures of the parts `l` and `r`, which both
evaluations came to in the same state. -/
inductive Forks (calls : Calls σ φ) (vars : Resolver) (l r : Expr) (i : Nat) (vs vs' : List (Visit σ)) :
    Except Halt α × σ → Except Halt α × σ → Prop
  | same (p : Except Halt α × σ) : Forks calls vars l r i vs vs' p p
  | failed {u err err' t} :
    ⟨i, l, u⟩ ∈ vs →
    ⟨i, r, u⟩ ∈ vs' →
    l.evaluate calls vars u = (.error err, t) →
    r.evaluate calls vars u = (.error err', t) →
    Forks calls vars l r i vs vs' (.error err, t) (.error err', t)

/-- Evaluation with one item replaced goes with the original up to that item, and forks there. -/
lemma items_set {items : List Expr} {k : Nat} (h : ∀ u, Matches calls vars l r u) (hi : items[i]? = some l) (s : σ) :
    Forks calls vars l r (k + i) (visitItems calls vars k items s) (visitItems calls vars k (items.set i r) s)
      (evaluateItems calls vars items s) (evaluateItems calls vars (items.set i r) s) := by
  -- Before the item both evaluations are one; at the item they part for good only if both fail there.
  induction items generalizing i k s with
  | nil => cases hi
  | cons a items ih =>
    cases i with
    | zero =>
      cases hi
      show Forks calls vars l r k (visitItems calls vars k (l :: items) s) (visitItems calls vars k (r :: items) s)
        (evaluateItems calls vars (l :: items) s) (evaluateItems calls vars (r :: items) s)
      rcases h s with heq | ⟨err, err', t, hl, hr⟩
      · cases hl : l.evaluate calls vars s with
        | mk result t =>
          rw [hl] at heq
          cases result with
          | ok v =>
            rw [evaluateItems_ok hl, evaluateItems_ok heq.symm]
            exact .same _
          | error err =>
            rw [evaluateItems_error hl, evaluateItems_error heq.symm]
            exact .same _
      · rw [evaluateItems_error hl, evaluateItems_error hr, visitItems_error hl, visitItems_error hr]
        exact .failed List.mem_cons_self List.mem_cons_self hl hr
    | succ i =>
      rw [List.set_cons_succ, ← Nat.add_assoc, Nat.add_right_comm]
      cases ha : a.evaluate calls vars s with
      | mk result t =>
        cases result with
        | error err =>
          rw [evaluateItems_error ha, evaluateItems_error ha]
          exact .same _
        | ok v =>
          rw [evaluateItems_ok ha, evaluateItems_ok ha, visitItems_ok ha, visitItems_ok ha]
          have hrest := ih (k := k + 1) hi t
          generalize evaluateItems calls vars items t = p, evaluateItems calls vars (items.set i r) t = q at hrest
          cases hrest with
          | same p => exact .same _
          | failed hmem hmem' hl hr =>
            exact .failed (List.mem_cons_of_mem _ hmem) (List.mem_cons_of_mem _ hmem') hl hr

/-- What follows an outcome does not bring together what has forked. -/
lemma Forks.bind {β : Type} {vs vs' : List (Visit σ)} {x y : Evaluation σ α} (h : Forks calls vars l r i vs vs' (x s) (y s))
    (f : α → Evaluation σ β) : Forks calls vars l r i vs vs' ((x >>= f) s) ((y >>= f) s) := by
  generalize hx : x s = p, hy : y s = q at h
  cases h with
  | same p =>
    obtain ⟨result, t⟩ := p
    cases result with
    | ok a =>
      rw [Run.bind_ok hx, Run.bind_ok hy]
      exact .same _
    | error err =>
      rw [Run.bind_error hx, Run.bind_error hy]
      exact .same _
  | failed hmem hmem' hl hr =>
    rw [Run.bind_error hx, Run.bind_error hy]
    exact .failed hmem hmem' hl hr

/-- The first part of a choice is replaced. -/
lemma choice_withPart_first {c : Choice} (hc : e.choice? = some c) (h : Matches calls vars l r s)
    (hl : e.parts[0]? = some l) :
    Forks calls vars l r 0 (visits calls vars e s) (visits calls vars (e.withPart 0 r) s) (e.evaluate calls vars s)
      ((e.withPart 0 r).evaluate calls vars s) := by
  have hc' : (e.withPart 0 r).choice? = some c := (choice?_withPart e 0 r).trans hc
  have hpart : (e.withPart 0 r).part 0 = r := part_withPart hl
  obtain rfl : e.part 0 = l := part_eq hl
  rcases h with heq | ⟨err, err', t, hleft, hright⟩
  · have hfirst : ((e.withPart 0 r).part 0).evaluate calls vars s = (e.part 0).evaluate calls vars s := by
      rw [hpart, heq]
    cases h0 : (e.part 0).evaluate calls vars s with
    | mk result t =>
      rw [h0] at hfirst
      cases result with
      | error err =>
        rw [(choice_error hc h0).1, (choice_error hc' hfirst).1]
        exact .same _
      | ok v =>
        cases htest : v.test c.place with
        | error err =>
          rw [(choice_untrue hc h0 htest).1, (choice_untrue hc' hfirst htest).1]
          exact .same _
        | ok b =>
          cases hnext : c.next b with
          | none =>
            rw [(choice_stop hc h0 htest hnext).1, (choice_stop hc' hfirst htest hnext).1]
            exact .same _
          | some j =>
            have hj : 0 ≠ j := by
              rintro rfl
              exact next_ne_zero hc b hnext
            rw [(choice_next hc h0 htest hnext).1, (choice_next hc' hfirst htest hnext).1, part_withPart_ne hj]
            exact .same _
  · have hfirst : ((e.withPart 0 r).part 0).evaluate calls vars s = (.error err', t) := by rw [hpart, hright]
    obtain ⟨heval, hvisits⟩ := choice_error hc hleft
    obtain ⟨heval', hvisits'⟩ := choice_error hc' hfirst
    rw [heval, heval', hvisits, hvisits', hpart]
    exact .failed List.mem_cons_self List.mem_cons_self hleft hright

/-- A part that may follow in a choice is replaced. -/
lemma choice_withPart_next {c : Choice} (hc : e.choice? = some c) (h : ∀ u, Matches calls vars l r u)
    (hl : e.parts[i]? = some l) (hi : i ≠ 0) :
    Forks calls vars l r i (visits calls vars e s) (visits calls vars (e.withPart i r) s) (e.evaluate calls vars s)
      ((e.withPart i r).evaluate calls vars s) := by
  have hc' : (e.withPart i r).choice? = some c := (choice?_withPart e i r).trans hc
  have hfirst : ((e.withPart i r).part 0).evaluate calls vars s = (e.part 0).evaluate calls vars s := by
    rw [part_withPart_ne hi]
  cases h0 : (e.part 0).evaluate calls vars s with
  | mk result t =>
    rw [h0] at hfirst
    cases result with
    | error err =>
      rw [(choice_error hc h0).1, (choice_error hc' hfirst).1]
      exact .same _
    | ok v =>
      cases htest : v.test c.place with
      | error err =>
        rw [(choice_untrue hc h0 htest).1, (choice_untrue hc' hfirst htest).1]
        exact .same _
      | ok b =>
        cases hnext : c.next b with
        | none =>
          rw [(choice_stop hc h0 htest hnext).1, (choice_stop hc' hfirst htest hnext).1]
          exact .same _
        | some j =>
          obtain ⟨heval, hvisits⟩ := choice_next hc h0 htest hnext
          obtain ⟨heval', hvisits'⟩ := choice_next hc' hfirst htest hnext
          by_cases hij : i = j
          · subst hij
            rw [heval, heval', hvisits, hvisits', part_eq hl, part_withPart hl]
            rcases h t with heq | ⟨err, err', u, hleft, hright⟩
            · rw [heq]
              exact .same _
            · rw [hleft, hright]
              exact .failed (List.mem_cons_of_mem _ List.mem_cons_self) (List.mem_cons_of_mem _ List.mem_cons_self)
                hleft hright
          · rw [heval, heval', part_withPart_ne hij]
            exact .same _

/-- Where expressions match, so do nodes of which they are a part. -/
theorem evaluate_withPart (h : ∀ u, Matches calls vars l r u) (hl : e.parts[i]? = some l) (s : σ) :
    Forks calls vars l r i (visits calls vars e s) (visits calls vars (e.withPart i r) s) (e.evaluate calls vars s)
      ((e.withPart i r).evaluate calls vars s) := by
  by_cases hcall : e.isCall = true
  · cases e with
    | call name args =>
      show Forks calls vars l r i (visits calls vars (.call name args) s)
        (visits calls vars (.call name (args.set i r)) s) _ ((Expr.call name (args.set i r)).evaluate calls vars s)
      rw [evaluate_call, evaluate_call]
      cases hres : calls.resolve name s with
      | mk result t =>
        cases result with
        | error err =>
          rw [Run.bind_error hres, Run.bind_error hres]
          exact .same _
        | ok f =>
          rw [Run.bind_ok hres, Run.bind_ok hres]
          simp only [visits, choice?, hres]
          have hitems := items_set (k := 0) h hl t
          rw [Nat.zero_add] at hitems
          exact hitems.bind _
    | _ => cases hcall
  · rw [Bool.not_eq_true] at hcall
    have hcall' : (e.withPart i r).isCall = false := (isCall_withPart e i r).trans hcall
    cases hc : e.choice? with
    | some c =>
      by_cases hi : i = 0
      · subst hi
        exact choice_withPart_first hc (h s) hl
      · exact choice_withPart_next hc h hl hi
    | none =>
      have hc' : (e.withPart i r).choice? = none := (choice?_withPart e i r).trans hc
      rw [evaluate_combine hcall hc, evaluate_combine hcall' hc', visits_combine hcall hc, visits_combine hcall' hc',
        combine_withPart, parts_withPart]
      have hitems := items_set (k := 0) h hl s
      rw [Nat.zero_add] at hitems
      exact hitems.bind _

end EventRules.Expr
