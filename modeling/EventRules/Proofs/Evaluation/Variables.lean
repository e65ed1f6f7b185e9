import EventRules.Proofs.Evaluation.Trace
import EventRules.Proofs.Expr.Occurrence

/-!
# Variables that an evaluation reads

The evaluation of an expression depends on its variables through the values of those that occur in it.
Two resolvers that agree on these give every part the same evaluation, by induction on the parts: the
same result, the same calls on the way and the same last state. The variables that occur are the ones
that the expression lists, so no dependency is missing from the list and none is listed in vain.
-/

namespace EventRules

namespace Expr

variable {σ φ : Type} {calls : Calls σ φ} {vars vars' : Resolver} {e a : Expr}

/-- The resolvers give the variables that occur in the expression the same values. -/
def SameVariables (vars vars' : Resolver) (e : Expr) : Prop :=
  ∀ name, .variable name ∈ e.nodes → vars.lookup name = vars'.lookup name

/-- What has the same variables has them in its parts. -/
lemma SameVariables.part (h : SameVariables vars vars' e) (ha : a ∈ e.parts) : SameVariables vars vars' a :=
  fun name hname => h name (mem_nodes_of_mem_parts ha hname)

/-- The variables that occur are those that the expression lists. -/
lemma sameVariables_iff :
    SameVariables vars vars' e ↔ ∀ name ∈ e.variableNames, vars.lookup name = vars'.lookup name :=
  forall_congr' fun name => by rw [mem_variableNames]

/-- A node combines the values of its parts to the same under resolvers that agree. -/
lemma combine_congr (h : SameVariables vars vars' e) (values : List Value) :
    e.combine vars values = e.combine vars' values := by
  cases e with
  | «variable» name => exact congrArg liftM (h name (mem_nodes_self _))
  | binary op left right => rcases values with _ | ⟨a, _ | ⟨b, _ | ⟨c, rest⟩⟩⟩ <;> rfl
  | unary op operand => rcases values with _ | ⟨a, _ | ⟨b, rest⟩⟩ <;> cases op <;> rfl
  | _ => rfl

/-- Items are evaluated alike if each of them is. -/
lemma evaluateItems_congr {items : List Expr} (h : ∀ a ∈ items, a.evaluate calls vars = a.evaluate calls vars') :
    evaluateItems calls vars items = evaluateItems calls vars' items := by
  induction items with
  | nil => rw [evaluateItems, evaluateItems]
  | cons a items ih =>
    obtain ⟨ha, hitems⟩ := List.forall_mem_cons.1 h
    rw [evaluateItems, evaluateItems, ha, ih hitems]

/-- Evaluation reads no variable but those that occur. -/
theorem evaluate_congr (calls : Calls σ φ) (h : SameVariables vars vars' e) :
    e.evaluate calls vars = e.evaluate calls vars' := by
  induction e using parts_induction with
  | h e ih =>
    have hparts (a : Expr) (ha : a ∈ e.parts) : a.evaluate calls vars = a.evaluate calls vars' :=
      ih a ha (h.part ha)
    by_cases hcall : e.isCall = true
    · cases e with
      | call name args =>
        have hargs : evaluateItems calls vars args = evaluateItems calls vars' args := evaluateItems_congr hparts
        rw [evaluate_call, evaluate_call, hargs]
      | _ => cases hcall
    · rw [Bool.not_eq_true] at hcall
      cases hc : e.choice? with
      | some c =>
        rw [evaluate_choice hc, evaluate_choice hc, hparts _ (part_mem_parts hc true List.mem_cons_self)]
        refine bind_congr fun v => bind_congr fun b => ?_
        cases hnext : c.next b with
        | some i =>
          have hi : i ∈ 0 :: (c.next b).toList := List.mem_cons_of_mem _ (Option.mem_toList.2 hnext)
          simp only [hparts _ (part_mem_parts hc b hi)]
        | none => rfl
      | none =>
        rw [evaluate_combine hcall hc, evaluate_combine hcall hc, evaluateItems_congr hparts]
        exact bind_congr fun values => by rw [combine_congr h]

/-- Items are visited alike if each of them is evaluated alike. -/
lemma visitItems_congr {items : List Expr} (h : ∀ a ∈ items, a.evaluate calls vars = a.evaluate calls vars') (i : Nat)
    (s : σ) : visitItems calls vars i items s = visitItems calls vars' i items s := by
  induction items generalizing i s with
  | nil => rfl
  | cons a items ih =>
    obtain ⟨ha, hitems⟩ := List.forall_mem_cons.1 h
    simp only [visitItems, ha, ih hitems]

/-- The same parts are visited under resolvers that agree. -/
lemma visits_congr (h : SameVariables vars vars' e) (s : σ) : visits calls vars e s = visits calls vars' e s := by
  have hparts (a : Expr) (ha : a ∈ e.parts) : a.evaluate calls vars = a.evaluate calls vars' :=
    evaluate_congr calls (h.part ha)
  cases hc : e.choice? with
  | some c =>
    rw [visits_choice calls vars hc, visits_choice calls vars' hc, visitChoice, visitChoice,
      hparts _ (part_mem_parts hc true List.mem_cons_self)]
  | none =>
    by_cases hcall : e.isCall = true
    · cases e with
      | call name args =>
        have hargs : ∀ a ∈ args, a.evaluate calls vars = a.evaluate calls vars' := hparts
        simp only [visits, choice?, visitItems_congr hargs]
      | _ => cases hcall
    · rw [Bool.not_eq_true] at hcall
      rw [visits_combine hcall hc, visits_combine hcall hc, visitItems_congr hparts]

/-- The same function is applied to the same values under resolvers that agree. -/
lemma closing_congr (h : SameVariables vars vars' e) (node : Address) (s : σ) :
    closing calls vars node e s = closing calls vars' node e s := by
  cases e with
  | call name args =>
    have hitems : evaluateItems calls vars args = evaluateItems calls vars' args :=
      evaluateItems_congr fun a ha => evaluate_congr calls (h.part ha)
    simp only [closing, hitems]
  | _ => rfl

/-- The same happens, in the same order, under resolvers that agree. -/
theorem trace_congr (calls : Calls σ φ) (h : SameVariables vars vars' e) (node : Address) (s : σ) :
    e.trace calls vars node s = e.trace calls vars' node s := by
  induction e using parts_induction generalizing node s with
  | h e ih =>
    have hparts : traces calls vars node (visits calls vars e s) = traces calls vars' node (visits calls vars e s) :=
      List.flatMap_congr fun v hv => ih v.part (mem_parts_of_mem_visits hv) (h.part (mem_parts_of_mem_visits hv)) _ _
    rw [trace_eq, trace_eq, hparts, visits_congr h, closing_congr h, evaluate_congr calls h]

end Expr

/-- The evaluation of an expression reads nothing but the variables that the expression lists: if two
resolvers give these the same values, then from every registry the evaluations have the same result,
resolve and apply the same functions to the same arguments in the same order, and leave the same
registry. The variables and the functions that the expression lists are those that occur in it, each
once and in the order in which they are first met, a whole before its parts and the parts from left to
right. -/
theorem Expression.reads_listed (x : Expression) :
    (∀ vars vars' : Resolver, (∀ name ∈ x.root.variableNames, vars.lookup name = vars'.lookup name) →
      ∀ r : Registry, x.root.evaluate Registry.calls vars r = x.root.evaluate Registry.calls vars' r ∧
        x.root.trace Registry.calls vars [] r = x.root.trace Registry.calls vars' [] r) ∧
    x.root.Lists Expr.variableName? x.root.variableNames ∧ x.root.Lists Expr.functionName? x.root.functionNames := by
  refine ⟨fun vars vars' hvars r => ?_, Expr.lists_eraseDups x.root _, Expr.lists_eraseDups x.root _⟩
  have hsame : x.root.SameVariables vars vars' := Expr.sameVariables_iff.2 hvars
  exact ⟨congrFun (Expr.evaluate_congr Registry.calls hsame) r, Expr.trace_congr Registry.calls hsame [] r⟩

/-- One resolver has a value for a whole path and the other for its base, so that both have the same
for the path; they differ in variables that the expression does not list. -/
theorem Expression.reads_listed_path :
    let x : Expression := ⟨"exists a ? f(b, a) : c.d + b", .ifElse (.unary .exists (.variable "a"))
      (.call "f" [.variable "b", .variable "a"]) (.binary .add (.variable "c.d") (.variable "b"))⟩
    let vars := Resolver.ofEntries [("a", .int 1), ("c.d", .int 7)]
    let vars' := Resolver.ofEntries [("a", .int 1), ("c", .map [("d", .int 7)]), ("z", .bool true)]
    x.root.variableNames = ["a", "b", "c.d"] ∧ x.root.functionNames = ["f"] ∧
      (∀ name ∈ x.root.variableNames, vars.lookup name = vars'.lookup name) ∧ vars.lookup "c" ≠ vars'.lookup "c" ∧
      ∀ r : Registry, x.root.evaluate Registry.calls vars r = x.root.evaluate Registry.calls vars' r ∧
        x.root.trace Registry.calls vars [] r = x.root.trace Registry.calls vars' [] r := by
  intro x vars vars'
  have hnames : x.root.variableNames = ["a", "b", "c.d"] := by decide
  have hvars : ∀ name ∈ x.root.variableNames, vars.lookup name = vars'.lookup name := by
    rw [hnames]
    simp only [List.forall_mem_cons]
    exact ⟨rfl, rfl, rfl, nofun⟩
  exact ⟨hnames, by decide, hvars, nofun, (reads_listed x).1 vars vars' hvars⟩

end EventRules
