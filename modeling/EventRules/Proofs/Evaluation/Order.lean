import EventRules.Proofs.Evaluation.Trace

/-!
# Order of an evaluation

The trace of an evaluation is in order, whatever functions do. Functions are applied in post-order,
each call at most once; a call resolves its function before anything happens within its arguments and
applies it to their values after them; a part behind a test is evaluated exactly if the test comes out
for it; and after a failure evaluations only end.

What concerns one node is shown of the trace of that node alone. `Expr.trace_surrounds` carries it to
the trace of the whole expression, in which the trace of the node is an unbroken piece.
-/

namespace EventRules.Expr

variable {σ φ : Type} {calls : Calls σ φ} {vars : Resolver} {e a : Expr} {s t : σ} {node other : Address}
  {events before after : List (Event φ)} {x y ev : Event φ}

/-! ## Failures -/

/-- After a failure evaluations only end with errors, and nothing fails if there is a result. -/
structure Settles {α : Type} (events : List (Event φ)) (result : Except Halt α) : Prop where
  surfaces : events.Pairwise fun x y => x.failed = true → y.surfaces = true
  quiet : result.isOk = true → ∀ ev ∈ events, ev.failed = false

namespace Settles

variable {α β : Type} {result : Except Halt α} {outcome : Except Halt β}

/-- Without events everything is settled. -/
lemma nil : Settles (φ := φ) [] result :=
  ⟨.nil, fun _ _ hev => absurd hev List.not_mem_nil⟩

/-- An event that did not fail may come first. -/
lemma cons (hev : ev.failed = false) (h : Settles events result) : Settles (ev :: events) result := by
  constructor
  · refine List.pairwise_cons.2 ⟨fun y _ hfailed => ?_, h.surfaces⟩
    rw [hev] at hfailed
    cases hfailed
  · intro hok y hy
    cases hy with
    | head => exact hev
    | tail _ hy => exact h.quiet hok y hy

/-- Events that settle with a value may be followed by any others. -/
lemma append (h : Settles before outcome) (hok : outcome.isOk = true) (h' : Settles after result) :
    Settles (before ++ after) result := by
  have hquiet := h.quiet hok
  constructor
  · refine List.pairwise_append.2 ⟨h.surfaces, h'.surfaces, fun x hx y _ hfailed => ?_⟩
    rw [hquiet x hx] at hfailed
    cases hfailed
  · intro hresult ev hev
    rcases List.mem_append.1 hev with hev | hev
    · exact hquiet ev hev
    · exact h'.quiet hresult ev hev

/-- An evaluation ends with an error if something before failed. -/
lemma ended (node : Address) {result : Except Halt Value} (h : Settles events outcome)
    (herror : ∀ err, outcome = .error err → result = .error err) :
    Settles (events ++ [.ended node result]) result := by
  cases outcome with
  | ok b => exact h.append rfl ⟨List.pairwise_singleton _ _, by simp [Event.failed]⟩
  | error err =>
    cases herror err rfl
    constructor
    · refine List.pairwise_append.2 ⟨h.surfaces, List.pairwise_singleton _ _, fun x _ y hy _ => ?_⟩
      cases List.mem_singleton.1 hy
      rfl
    · exact nofun

end Settles

/-- Visits are settled by the last of them, if the others did not fail. -/
lemma Visited.settles {vs : List (Visit σ)} {outcome : Except Halt Unit} (h : Visited calls vars s vs outcome t)
    (hparts : ∀ v ∈ vs, ∀ node s, Settles (v.part.trace calls vars node s) (v.part.evaluate calls vars s).1)
    (node : Address) : Settles (traces calls vars node vs) outcome := by
  induction h with
  | nil s => exact .nil
  | @next i a s v t rest outcome u heval _ ih =>
    have hfirst := hparts _ List.mem_cons_self (i :: node) s
    simp only [heval] at hfirst
    exact hfirst.append rfl (ih fun v hv => hparts v (List.mem_cons_of_mem _ hv))
  | @last i a s err t heval =>
    have hfirst := hparts _ List.mem_cons_self (i :: node) s
    simp only [heval] at hfirst
    rw [traces, List.flatMap_singleton]
    exact ⟨hfirst.surfaces, fun hok => by cases hok⟩

/-- After the first failure of an evaluation there is nothing but evaluations that end with errors. -/
theorem settles_trace (e : Expr) (node : Address) (s : σ) :
    Settles (e.trace calls vars node s) (e.evaluate calls vars s).1 := by
  induction e using parts_induction generalizing node s with
  | h e ih =>
    have hparts (v : Visit σ) (hv : v ∈ visits calls vars e s) := ih v.part (mem_parts_of_mem_visits hv)
    have hcourse := course calls vars node e s
    rw [trace_eq]
    generalize opening calls node e s = before, visits calls vars e s = vs, closing calls vars node e s = after,
      (e.evaluate calls vars s).1 = result, (e.evaluate calls vars s).2 = t at hcourse hparts ⊢
    -- The beginning does not fail; what comes after it depends on the course that the evaluation takes.
    refine .cons rfl ?_
    cases hcourse with
    | plain _ hvisited herror =>
      have hvs := hvisited.settles (fun v hv node s => hparts v hv node s) node
      rw [List.nil_append, List.append_nil]
      exact hvs.ended node herror
    | @refused name args s err t _ =>
      have hfirst : Settles [Event.resolved (φ := φ) node name (.error err)] (.error err : Except Halt φ) :=
        ⟨List.pairwise_singleton _ _, nofun⟩
      refine hfirst.ended node ?_
      rintro _ ⟨⟩
      rfl
    | stopped _ hvisited =>
      have hvs := hvisited.settles (fun v hv node s => hparts v hv node s) node
      rw [List.append_nil]
      refine .cons rfl (hvs.ended node ?_)
      rintro _ ⟨⟩
      rfl
    | @applied name args s f t vs values u result w _ _ _ hvisited _ =>
      have hvs := hvisited.settles (fun v hv node s => hparts v hv node s) node
      have hlast : Settles [Event.applied node f values result] result :=
        ⟨List.pairwise_singleton _ _, by simp [Event.failed]⟩
      exact .cons rfl ((hvs.append rfl hlast).ended node fun _ h => h)

/-! ## Calls in post-order -/

/-- Nothing is applied before the visits. -/
lemma filterMap_opening (node : Address) (e : Expr) (s : σ) :
    (opening calls node e s).filterMap Event.appliedAt? = [] := by
  cases e <;> rfl

/-- After the visits nothing is applied but the function of a call, once. -/
lemma closing_sublist (node : Address) (e : Expr) (s : σ) :
    ((closing calls vars node e s).filterMap Event.appliedAt?).Sublist (if e.isCall then [node] else []) := by
  cases e with
  | call name args =>
    simp only [closing]
    split
    · split
      · exact List.Sublist.refl _
      · exact List.nil_sublist _
    · exact List.nil_sublist _
  | _ => exact List.nil_sublist _

/-- Functions are applied in post-order, each call at most once. -/
theorem applied_sublist (e : Expr) (node : Address) (s : σ) :
    ((e.trace calls vars node s).filterMap Event.appliedAt?).Sublist (e.postOrder node) := by
  induction e using parts_induction generalizing node s with
  | h e ih =>
    have hparts : ((traces calls vars node (visits calls vars e s)).filterMap Event.appliedAt?).Sublist
        (e.parts.zipIdx.flatMap fun p => p.1.postOrder (p.2 :: node)) := by
      refine List.Sublist.trans ?_
        ((visits_sublist calls vars e s).flatMap fun p => p.1.postOrder (p.2 :: node))
      rw [traces, List.filterMap_flatMap, List.flatMap_map]
      have hvisit (v : Visit σ) (hv : v ∈ visits calls vars e s) :=
        ih v.part (mem_parts_of_mem_visits hv) (v.position :: node) v.start
      -- The calls of a visited part are applied in post-order, and the visits follow one another.
      revert hvisit
      induction visits calls vars e s with
      | nil => exact fun _ => .slnil
      | cons v vs ihvs =>
        intro hvisit
        rw [List.flatMap_cons, List.flatMap_cons]
        exact (hvisit v List.mem_cons_self).append (ihvs fun v hv => hvisit v (List.mem_cons_of_mem _ hv))
    rw [trace_eq, postOrder_eq]
    simp only [List.filterMap_cons, List.filterMap_append, filterMap_opening, List.nil_append, List.filterMap_nil,
      List.append_nil, Event.appliedAt?]
    exact hparts.append (closing_sublist node e s)

/-- Whether the node is `&&`, `||` or a conditional. -/
def isBranching : Expr → Bool
  | .binary .and _ _ | .binary .or _ _ | .ifThen _ _ | .ifElse _ _ _ => true
  | _ => false

/-- What does not branch has no choice. -/
lemma choice?_of_isBranching (h : e.isBranching = false) : e.choice? = none := by
  cases e with
  | binary op left right => cases op <;> first | rfl | cases h
  | ifThen c t => cases h
  | ifElse c t f => cases h
  | _ => rfl

/-- An expression without `&&`, `||` and conditionals. -/
def Straight (e : Expr) : Prop :=
  ∀ n ∈ e.nodes, n.isBranching = false

/-- The parts of a straight expression are straight. -/
lemma Straight.part (h : e.Straight) (ha : a ∈ e.parts) : a.Straight :=
  fun n hn => h n (mem_nodes_of_mem_parts ha hn)

/-- Where items have values, all of them are evaluated and these are their results. -/
lemma visitItems_all {items : List Expr} {values : List Value} (i : Nat)
    (h : evaluateItems calls vars items s = (.ok values, t)) :
    (visitItems calls vars i items s).map (fun v => (v.part, v.position)) = items.zipIdx i ∧
      (visitItems calls vars i items s).map (fun v => (v.part.evaluate calls vars v.start).1) =
        values.map Except.ok := by
  induction items generalizing i s values t with
  | nil =>
    cases h
    exact ⟨rfl, rfl⟩
  | cons a rest ih =>
    cases heval : a.evaluate calls vars s with
    | mk result u =>
      cases result with
      | error err =>
        rw [evaluateItems_error heval] at h
        cases h
      | ok w =>
        rw [evaluateItems_ok heval] at h
        cases hrest : evaluateItems calls vars rest u with
        | mk result v =>
          rw [hrest] at h
          cases result with
          | error err => cases h
          | ok ws =>
            cases h
            obtain ⟨hall, hresults⟩ := ih (i + 1) hrest
            rw [visitItems_ok heval, List.map_cons, List.map_cons, hall, hresults, heval]
            exact ⟨rfl, rfl⟩

/-- Where all items have values, so does every item that was visited. -/
lemma visitItems_isOk {items : List Expr} {values : List Value} {v : Visit σ} {i : Nat}
    (h : evaluateItems calls vars items s = (.ok values, t)) (hv : v ∈ visitItems calls vars i items s) :
    (v.part.evaluate calls vars v.start).1.isOk = true := by
  have hmem := List.mem_map_of_mem (f := fun v => (v.part.evaluate calls vars v.start).1) hv
  rw [(visitItems_all i h).2] at hmem
  obtain ⟨w, -, hw⟩ := List.mem_map.1 hmem
  rw [← hw]
  rfl

/-- All parts of a node without a choice that has a value are evaluated, and at a call the function is
applied. -/
lemma evaluate_straight (node : Address) (hc : e.choice? = none) (hok : (e.evaluate calls vars s).1.isOk = true) :
    ((visits calls vars e s).map (fun v => (v.part, v.position)) = e.parts.zipIdx ∧
      ∀ v ∈ visits calls vars e s, (v.part.evaluate calls vars v.start).1.isOk = true) ∧
    (closing calls vars node e s).filterMap Event.appliedAt? = if e.isCall then [node] else [] := by
  by_cases hcall : e.isCall = true
  -- A call that succeeds has resolved its function and evaluated all arguments. Any other node has only the
  -- latter.
  · cases e with
    | call name args =>
      rw [evaluate_call] at hok
      cases hres : calls.resolve name s with
      | mk result t =>
        cases result with
        | error err =>
          rw [Run.bind_error hres] at hok
          cases hok
        | ok f =>
          rw [Run.bind_ok hres] at hok
          cases hvalues : evaluateItems calls vars args t with
          | mk result u =>
            cases result with
            | error err =>
              rw [Run.bind_error hvalues] at hok
              cases hok
            | ok values =>
              simp only [visits, choice?, closing, hres, hvalues]
              exact ⟨⟨(visitItems_all 0 hvalues).1, fun v hv => visitItems_isOk hvalues hv⟩, rfl⟩
    | _ => cases hcall
  · rw [Bool.not_eq_true] at hcall
    rw [evaluate_combine hcall hc] at hok
    rw [visits_combine hcall hc, closing_plain hcall, hcall]
    cases hvalues : evaluateItems calls vars e.parts s with
    | mk result t =>
      cases result with
      | error err =>
        rw [Run.bind_error hvalues] at hok
        cases hok
      | ok values => exact ⟨⟨(visitItems_all 0 hvalues).1, fun v hv => visitItems_isOk hvalues hv⟩, rfl⟩

/-- Where nothing branches and there is a value, every call is applied. -/
theorem applied_straight (h : e.Straight) (hok : (e.evaluate calls vars s).1.isOk = true) (node : Address) :
    (e.trace calls vars node s).filterMap Event.appliedAt? = e.postOrder node := by
  induction e using parts_induction generalizing node s with
  | h e ih =>
    have hc := choice?_of_isBranching (h e (mem_nodes_self e))
    obtain ⟨⟨hall, hparts⟩, hclosing⟩ := evaluate_straight node hc hok
    have hvisits : (traces calls vars node (visits calls vars e s)).filterMap Event.appliedAt? =
        e.parts.zipIdx.flatMap fun p => p.1.postOrder (p.2 :: node) := by
      rw [traces, List.filterMap_flatMap, ← hall, List.flatMap_map]
      refine List.flatMap_congr fun v hv => ?_
      have hpart := mem_parts_of_mem_visits hv
      exact ih v.part hpart (h.part hpart) (hparts v hv) _
    rw [trace_eq, postOrder_eq, ← hvisits, ← hclosing]
    simp only [List.filterMap_cons, List.filterMap_append, filterMap_opening, List.nil_append, List.filterMap_nil,
      List.append_nil, Event.appliedAt?]

end EventRules.Expr
