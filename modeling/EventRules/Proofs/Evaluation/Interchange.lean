import EventRules.Proofs.Evaluation.Congruence
import EventRules.Proofs.Evaluation.Log

/-!
# Expressions that can be interchanged

A negated conjunction and the disjunction of negations, a conditional on a negation and one with its
branches swapped, a conditional without an alternative and one with null for it, the test whether
something exists and the comparison with null: `Expr.Interchangeable` lists these laws. Wherever one
side stands within an expression, the other can stand. The evaluation applies the same functions to
the same arguments in the same order and has the same outcome, but for one case: an operand of the law
may have a value that is no boolean. Then both sides say so, each in its own words.
-/

namespace EventRules

/-- A value stands for the same boolean wherever it is tested, or for none. -/
lemma Value.test_cases (v : Value) :
    (∃ b, ∀ place, v.test place = .ok b) ∨
      ∀ place, v.test place = .error (.type (.notBoolean place v.typeName)) := by
  cases v with
  | null => exact .inl ⟨false, fun _ => rfl⟩
  | bool b => exact .inl ⟨b, fun _ => rfl⟩
  | _ => exact .inr fun _ => rfl

namespace Expr

variable {σ φ : Type} {calls : Calls σ φ} {vars : Resolver} {e a b l r : Expr} {s t : σ} {node law : Address}
  {ops ops' : List Address} {i : Nat}

/-! ## Events at a part -/

/-- A part is visited once, so its place tells the visit. -/
lemma visit_unique {v w : Visit σ} (hv : v ∈ visits calls vars e s) (hw : w ∈ visits calls vars e s)
    (h : v.position = w.position) : v = w :=
  List.inj_on_of_nodup_map (visits_positions calls vars e s) hv hw h

/-- Where no part fails, no part ends with an error. -/
lemma quiet_parts (h : ∀ v ∈ visits calls vars e s, (v.part.evaluate calls vars v.start).1.isOk = true) (i : Nat)
    (err : Halt) : .ended (i :: node) (.error err) ∉ e.trace calls vars node s := by
  intro hended
  obtain ⟨v, hv, -, hresult⟩ := ended_part.1 hended
  have hok := h v hv
  rw [← hresult] at hok
  cases hok

/-- Where no part of a part fails, none ends with an error. -/
lemma quiet_inner (h : ∀ v ∈ visits calls vars e s, ∀ w ∈ visits calls vars v.part v.start,
      (w.part.evaluate calls vars w.start).1.isOk = true) (i j : Nat) (err : Halt) :
    .ended (j :: i :: node) (.error err) ∉ e.trace calls vars node s := by
  intro hended
  obtain ⟨v, hv, -, hmem⟩ := mem_trace_part hended (List.suffix_cons _ _)
  exact quiet_parts (h v hv) j err hmem

/-! ## Laws -/

/-- The two sides of a law, and the addresses of the operands within each. -/
inductive Interchangeable : Expr → Expr → List Address → List Address → Prop
  | notAnd (a b : Expr) :
    Interchangeable (.unary .not (.binary .and a b)) (.binary .or (.unary .not a) (.unary .not b))
      [[0, 0], [1, 0]] [[0, 0], [0, 1]]
  | notOr (a b : Expr) :
    Interchangeable (.unary .not (.binary .or a b)) (.binary .and (.unary .not a) (.unary .not b))
      [[0, 0], [1, 0]] [[0, 0], [0, 1]]
  | notCondition (c a b : Expr) :
    Interchangeable (.ifElse (.unary .not c) a b) (.ifElse c b a) [[0, 0], [1], [2]] [[0], [2], [1]]
  | ifThen (c a : Expr) :
    Interchangeable (.ifThen c a) (.ifElse c a (.literal .null)) [[0], [1]] [[0], [1]]
  | exists (a : Expr) :
    Interchangeable (.unary .exists a) (.binary .notEqual a (.literal .null)) [[0]] [[0]]

/-- At the addresses of the operands both sides have the same expressions. -/
lemma Interchangeable.operands (h : Interchangeable l r ops ops') :
    ∃ operands : List Expr, ops.map l.at? = operands.map some ∧ ops'.map r.at? = operands.map some := by
  cases h with
  | notAnd a b => exact ⟨[a, b], rfl, rfl⟩
  | notOr a b => exact ⟨[a, b], rfl, rfl⟩
  | notCondition c a b => exact ⟨[c, a, b], rfl, rfl⟩
  | ifThen c a => exact ⟨[c, a], rfl, rfl⟩
  | «exists» a => exact ⟨[a], rfl, rfl⟩

/-- Two expressions have the same outcome, or an operand of the law at an address is no boolean: then
both fail at that address and say so, and no operand fails. -/
inductive Alike (calls : Calls σ φ) (vars : Resolver) (law : Address) (ops ops' : List Address) (node : Address)
    (l r : Expr) (s : σ) : Prop
  | same :
    l.evaluate calls vars s = r.evaluate calls vars s →
    Alike calls vars law ops ops' node l r s
  | notBoolean {place place' type : String} {t : σ} :
    l.evaluate calls vars s = (.error (.failure (.type (.notBoolean place type))), t) →
    r.evaluate calls vars s = (.error (.failure (.type (.notBoolean place' type))), t) →
    .ended law (.error (.failure (.type (.notBoolean place type)))) ∈ l.trace calls vars node s →
    .ended law (.error (.failure (.type (.notBoolean place' type)))) ∈ r.trace calls vars node s →
    (∀ n ∈ ops, ∀ err, .ended (n ++ law) (.error err) ∉ l.trace calls vars node s) →
    (∀ n ∈ ops', ∀ err, .ended (n ++ law) (.error err) ∉ r.trace calls vars node s) →
    Alike calls vars law ops ops' node l r s

/-- Expressions that are alike have the same result, up to what a test says of a value that is no boolean. -/
lemma Alike.matches (h : Alike calls vars law ops ops' node l r s) : Matches calls vars l r s := by
  cases h with
  | same heq => exact .inl heq
  | notBoolean hl hr _ _ _ _ => exact .inr ⟨_, _, _, hl, hr⟩

/-- Expressions that are alike end in the same state. -/
lemma Alike.state_eq (h : Alike calls vars law ops ops' node l r s) :
    (l.evaluate calls vars s).2 = (r.evaluate calls vars s).2 := by
  cases h with
  | same heq => rw [heq]
  | notBoolean hl hr _ _ _ _ => rw [hl, hr]

/-- Where two parts are alike, so are the nodes around them. -/
lemma Alike.withPart (h : ∀ u, Alike calls vars law ops ops' (i :: node) l r u) (hbelow : i :: node <:+ law)
    (hl : e.parts[i]? = some l) (s : σ) : Alike calls vars law ops ops' node e (e.withPart i r) s := by
  have hforks := evaluate_withPart (fun u => (h u).matches) hl s
  generalize he : e.evaluate calls vars s = p, he' : (e.withPart i r).evaluate calls vars s = q at hforks
  cases hforks with
  | same p => exact .same (he.trans he'.symm)
  | @failed u err err' t hmem hmem' hleft hright =>
    cases h u with
    | same heq =>
      rw [hleft, hright] at heq
      rw [← heq] at he'
      exact .same (he.trans he'.symm)
    | notBoolean hl' hr' hended hended' hops hops' =>
      rw [hl'] at hleft
      cases hleft
      rw [hr'] at hright
      cases hright
      refine .notBoolean he he' (mem_trace_of_visit hmem hended) (mem_trace_of_visit hmem' hended') ?_ ?_
      · intro n hn err hfail
        obtain ⟨v, hv, hpos, hin⟩ := mem_trace_part hfail (hbelow.trans (List.suffix_append n law))
        obtain rfl := visit_unique hv hmem hpos
        exact hops n hn err hin
      · intro n hn err hfail
        obtain ⟨v, hv, hpos, hin⟩ := mem_trace_part hfail (hbelow.trans (List.suffix_append n law))
        obtain rfl := visit_unique hv hmem' hpos
        exact hops' n hn err hin

/-- Expressions that are alike are so within every expression. -/
lemma Alike.replaceAt (h : ∀ s, Alike calls vars law ops ops' node l r s) (hnode : node <:+ law)
    (hl : e.at? node = some l) (s : σ) : Alike calls vars law ops ops' [] e (e.replaceAt node r) s := by
  induction node generalizing l r with
  | nil =>
    cases hl
    exact h s
  | cons i node ih =>
    obtain ⟨above, habove, hpart⟩ := at?_cons.1 hl
    rw [Expr.replaceAt, habove]
    exact ih (fun u => .withPart h hnode hpart u) ((List.suffix_cons i node).trans hnode) habove

/-! ### Negations -/

section

variable {v : Value} {err : Halt}

/-- The negation of what fails fails with the same error. -/
lemma not_error (h : a.evaluate calls vars s = (.error err, t)) :
    (Expr.unary .not a).evaluate calls vars s = (.error err, t) := by
  rw [evaluate, Run.bind_error h]

/-- The negation of a value is its test, turned around. -/
lemma not_ok (h : a.evaluate calls vars s = (.ok v, t)) :
    (Expr.unary .not a).evaluate calls vars s = (liftM ((v.test "'!'").map fun p => Value.bool !p), t) := by
  rw [evaluate, Run.bind_ok h]
  cases v.test "'!'" <;> rfl

/-- A negation visits what it negates. -/
lemma visits_not (a : Expr) (s : σ) : visits calls vars (.unary .not a) s = [⟨0, a, s⟩] := by
  show visitItems calls vars 0 [a] s = _
  rw [visitItems]
  split <;> rfl

/-- The operand of a negation has a value, whether it is negated or not. -/
lemma quiet_not (h : a.evaluate calls vars s = (.ok v, t)) :
    ∀ w ∈ visits calls vars (.unary .not a) s, (w.part.evaluate calls vars w.start).1.isOk = true := by
  intro w hw
  rw [visits_not] at hw
  cases List.mem_singleton.1 hw
  rw [h]
  rfl

end

/-! ### Conjunctions and disjunctions -/

/-- An operator that goes on to its second operand unless the first one is `short`. -/
structure Junction (op : BinaryOp) (c : Choice) (short : Bool) : Prop where
  choice : ∀ a b, (Expr.binary op a b).choice? = some c
  next_short : c.next short = none
  next : c.next (!short) = some 1
  stop : c.stop = .bool short
  finish : ∀ v, c.finish v = (v.test c.place).map .bool

namespace Junction

variable {op dual : BinaryOp} {c c' : Choice} {short : Bool} {v w : Value} {err : Halt} {u : σ}

/-- A conjunction is cut short by false. -/
lemma and : ∃ c, Junction .and c false :=
  ⟨_, fun _ _ => rfl, rfl, rfl, rfl, fun _ => rfl⟩

/-- A disjunction is cut short by true. -/
lemma or : ∃ c, Junction .or c true :=
  ⟨_, fun _ _ => rfl, rfl, rfl, rfl, fun _ => rfl⟩

/-- Where the first operand decides, the second one is not evaluated. -/
lemma evaluate_short (h : Junction op c short) (ha : a.evaluate calls vars s = (.ok v, t))
    (hv : v.test c.place = .ok short) (b : Expr) :
    (Expr.binary op a b).evaluate calls vars s = (.ok (.bool short), t) := by
  rw [← h.stop]
  exact (choice_stop (h.choice a b) ha hv h.next_short).1

/-- Where the first operand does not decide, the test of the second one is the result. -/
lemma evaluate_next (h : Junction op c short) (ha : a.evaluate calls vars s = (.ok v, t))
    (hv : v.test c.place = .ok !short) (hb : b.evaluate calls vars t = (.ok w, u)) :
    (Expr.binary op a b).evaluate calls vars s = (liftM ((w.test c.place).map Value.bool), u) ∧
      visits calls vars (.binary op a b) s = [⟨0, a, s⟩, ⟨1, b, t⟩] := by
  obtain ⟨heval, hvisits⟩ := choice_next (h.choice a b) ha hv h.next
  rw [show (Expr.binary op a b).part 1 = b from rfl, hb] at heval
  rw [← h.finish]
  exact ⟨heval, hvisits⟩

/-- Where the first operand does not decide, an error of the second one is the result. -/
lemma evaluate_next_error (h : Junction op c short) (ha : a.evaluate calls vars s = (.ok v, t))
    (hv : v.test c.place = .ok !short) (hb : b.evaluate calls vars t = (.error err, u)) :
    (Expr.binary op a b).evaluate calls vars s = (.error err, u) ∧
      visits calls vars (.binary op a b) s = [⟨0, a, s⟩, ⟨1, b, t⟩] := by
  obtain ⟨heval, hvisits⟩ := choice_next (h.choice a b) ha hv h.next
  rw [show (Expr.binary op a b).part 1 = b from rfl, hb] at heval
  exact ⟨heval, hvisits⟩

/-- Both sides of the law about a negated junction say that an operand is no boolean. -/
lemma alike_notBoolean {l r : Expr} {place place' : String} {type : String}
    (hl : l.evaluate calls vars s = (.error (.failure (.type (.notBoolean place type))), t))
    (hr : r.evaluate calls vars s = (.error (.failure (.type (.notBoolean place' type))), t))
    (hquiet : ∀ v ∈ visits calls vars l s, ∀ w ∈ visits calls vars v.part v.start,
      (w.part.evaluate calls vars w.start).1.isOk = true)
    (hquiet' : ∀ v ∈ visits calls vars r s, ∀ w ∈ visits calls vars v.part v.start,
      (w.part.evaluate calls vars w.start).1.isOk = true) (node : Address) :
    Alike calls vars node [[0, 0], [1, 0]] [[0, 0], [0, 1]] node l r s := by
  have hended : .ended node _ ∈ l.trace calls vars node s := ended_mem_trace l node s
  have hended' : .ended node _ ∈ r.trace calls vars node s := ended_mem_trace r node s
  rw [hl] at hended
  rw [hr] at hended'
  refine .notBoolean hl hr hended hended' ?_ ?_
  · simp only [List.forall_mem_cons, List.cons_append, List.nil_append]
    exact ⟨quiet_inner hquiet 0 0, quiet_inner hquiet 0 1, nofun⟩
  · simp only [List.forall_mem_cons, List.cons_append, List.nil_append]
    exact ⟨quiet_inner hquiet' 0 0, quiet_inner hquiet' 1 0, nofun⟩

/-- The first operand is no boolean. -/
lemma alike_first (h : Junction op c short) (h' : Junction dual c' !short) (ha : a.evaluate calls vars s = (.ok v, t))
    (hno : ∀ place, v.test place = .error (.type (.notBoolean place v.typeName))) (b : Expr) (node : Address) :
    Alike calls vars node [[0, 0], [1, 0]] [[0, 0], [0, 1]] node (.unary .not (.binary op a b))
      (.binary dual (.unary .not a) (.unary .not b)) s := by
  have hna := not_ok ha
  rw [hno] at hna
  obtain ⟨hleft, hvisits⟩ : _ ∧ visits calls vars (.binary op a b) s = [⟨0, a, s⟩] :=
    choice_untrue (h.choice a b) ha (hno c.place)
  obtain ⟨hright, hvisits'⟩ : _ ∧
      visits calls vars (.binary dual (.unary .not a) (.unary .not b)) s = [⟨0, .unary .not a, s⟩] :=
    choice_error (h'.choice (.unary .not a) (.unary .not b)) hna
  refine alike_notBoolean (not_error hleft) hright ?_ ?_ node
  · simp only [visits_not, hvisits, List.forall_mem_cons, ha]
    exact ⟨⟨rfl, nofun⟩, nofun⟩
  · simp only [hvisits', List.forall_mem_cons]
    exact ⟨quiet_not ha, nofun⟩

/-- The first operand is a boolean that leaves the decision to the second. -/
lemma alike_second (h : Junction op c short) (h' : Junction dual c' !short) (ha : a.evaluate calls vars s = (.ok v, t))
    (hv : ∀ place, v.test place = .ok !short) (b : Expr) (node : Address) :
    Alike calls vars node [[0, 0], [1, 0]] [[0, 0], [0, 1]] node (.unary .not (.binary op a b))
      (.binary dual (.unary .not a) (.unary .not b)) s := by
  have hna := not_ok ha
  rw [hv] at hna
  cases hb : b.evaluate calls vars t with
  | mk result u =>
    cases result with
    | error err =>
      have hl := not_error (h.evaluate_next_error ha (hv c.place) hb).1
      have hr := (h'.evaluate_next_error hna rfl (not_error hb)).1
      exact .same (hl.trans hr.symm)
    | ok w =>
      have hnb := not_ok hb
      obtain ⟨hleft, hvisits⟩ := h.evaluate_next ha (hv c.place) hb
      rcases w.test_cases with ⟨q, hq⟩ | hno
      · rw [hq] at hleft hnb
        have hr := (h'.evaluate_next hna rfl hnb).1
        exact .same ((not_ok hleft).trans hr.symm)
      · rw [hno] at hleft hnb
        obtain ⟨hright, hvisits'⟩ := h'.evaluate_next_error hna rfl hnb
        refine alike_notBoolean (not_error hleft) hright ?_ ?_ node
        · simp only [visits_not, hvisits, List.forall_mem_cons, ha, hb]
          exact ⟨⟨rfl, rfl, nofun⟩, nofun⟩
        · simp only [hvisits', List.forall_mem_cons]
          exact ⟨quiet_not ha, quiet_not hb, nofun⟩

/-- A negated junction and the dual one of the negations. -/
lemma alike (h : Junction op c short) (h' : Junction dual c' !short) (a b : Expr) (node : Address) (s : σ) :
    Alike calls vars node [[0, 0], [1, 0]] [[0, 0], [0, 1]] node (.unary .not (.binary op a b))
      (.binary dual (.unary .not a) (.unary .not b)) s := by
  cases ha : a.evaluate calls vars s with
  | mk result t =>
    cases result with
    | error err =>
      have hl := not_error (choice_error (h.choice a b) ha).1
      have hr := (choice_error (h'.choice (.unary .not a) (.unary .not b)) (not_error ha)).1
      exact .same (hl.trans hr.symm)
    | ok v =>
      rcases v.test_cases with ⟨p, hp⟩ | hno
      · by_cases hshort : p = short
        · subst hshort
          have hna := not_ok ha
          rw [hp] at hna
          have hl := not_ok (h.evaluate_short ha (hp c.place) b)
          have hr := h'.evaluate_short hna rfl (.unary .not b)
          exact .same (hl.trans hr.symm)
        · obtain rfl : p = !short := Bool.eq_not.2 hshort
          exact h.alike_second h' ha hp b node
      · exact h.alike_first h' ha hno b node

end Junction

/-! ### Conditionals and null -/

/-- The condition is no boolean, whether negated or not. -/
lemma alike_condition {c : Expr} {v : Value} (hc : c.evaluate calls vars s = (.ok v, t))
    (hno : ∀ place, v.test place = .error (.type (.notBoolean place v.typeName))) (a b : Expr) (node : Address) :
    Alike calls vars node [[0, 0], [1], [2]] [[0], [2], [1]] node (.ifElse (.unary .not c) a b) (.ifElse c b a) s := by
  have hnc := not_ok hc
  rw [hno] at hnc
  obtain ⟨hleft, hvisits⟩ : _ ∧ visits calls vars (.ifElse (.unary .not c) a b) s = [⟨0, .unary .not c, s⟩] :=
    choice_error (e := .ifElse (.unary .not c) a b) rfl hnc
  obtain ⟨hright, hvisits'⟩ : _ ∧ visits calls vars (.ifElse c b a) s = [⟨0, c, s⟩] :=
    choice_untrue (e := .ifElse c b a) rfl hc (hno _)
  have hended : .ended node _ ∈ (Expr.ifElse (.unary .not c) a b).trace calls vars node s := ended_mem_trace _ node s
  have hended' : .ended node _ ∈ (Expr.ifElse c b a).trace calls vars node s := ended_mem_trace _ node s
  rw [hleft] at hended
  rw [hright] at hended'
  have hinner : ∀ v ∈ visits calls vars (.ifElse (.unary .not c) a b) s, ∀ w ∈ visits calls vars v.part v.start,
      (w.part.evaluate calls vars w.start).1.isOk = true := by
    simp only [hvisits, List.forall_mem_cons]
    exact ⟨quiet_not hc, nofun⟩
  have hparts : ∀ v ∈ visits calls vars (.ifElse c b a) s, (v.part.evaluate calls vars v.start).1.isOk = true := by
    simp only [hvisits', List.forall_mem_cons, hc]
    exact ⟨rfl, nofun⟩
  -- The negation itself fails, but neither branch is evaluated.
  have hbranch (i : Nat) (hi : i ≠ 0) (err : Halt) :
      .ended (i :: node) (.error err) ∉ (Expr.ifElse (.unary .not c) a b).trace calls vars node s := by
    intro hfail
    obtain ⟨v, hv, hpos, -⟩ := ended_part.1 hfail
    rw [hvisits] at hv
    cases List.mem_singleton.1 hv
    exact hi hpos.symm
  -- Both sides end with an error of types for one value, and differ in the place that it names.
  refine .notBoolean hleft hright hended hended' ?_ ?_
  · simp only [List.forall_mem_cons, List.cons_append, List.nil_append]
    exact ⟨quiet_inner hinner 0 0, hbranch 1 (by decide), hbranch 2 (by decide), nofun⟩
  · simp only [List.forall_mem_cons, List.cons_append, List.nil_append]
    exact ⟨quiet_parts hparts 0, quiet_parts hparts 2, quiet_parts hparts 1, nofun⟩

/-- A conditional on a negation and the one with its branches swapped. -/
lemma alike_notCondition (c a b : Expr) (node : Address) (s : σ) :
    Alike calls vars node [[0, 0], [1], [2]] [[0], [2], [1]] node (.ifElse (.unary .not c) a b) (.ifElse c b a) s := by
  cases hc : c.evaluate calls vars s with
  | mk result t =>
    cases result with
    | error err =>
      have hl := (choice_error (e := .ifElse (.unary .not c) a b) rfl (not_error hc)).1
      have hr := (choice_error (e := .ifElse c b a) rfl hc).1
      exact .same (hl.trans hr.symm)
    | ok v =>
      rcases v.test_cases with ⟨p, hp⟩ | hno
      · have hnc := not_ok hc
        rw [hp] at hnc
        have hr := fun j hj => (choice_next (e := .ifElse c b a) (j := j) rfl hc (hp _) hj).1
        have hl := fun j hj => (choice_next (e := .ifElse (.unary .not c) a b) (j := j) rfl hnc rfl hj).1
        cases p with
        | true => exact .same ((hl 2 rfl).trans (hr 1 rfl).symm)
        | false => exact .same ((hl 1 rfl).trans (hr 2 rfl).symm)
      · exact alike_condition hc hno a b node

/-- A conditional without an alternative and the one with null for it. -/
lemma evaluate_ifThen (c a : Expr) :
    (Expr.ifThen c a).evaluate calls vars = (Expr.ifElse c a (.literal .null)).evaluate calls vars := by
  rw [evaluate, evaluate]
  refine bind_congr fun v => bind_congr fun p => ?_
  cases p with
  | true => rfl
  | false => rw [evaluate]

/-- What exists is what is not equal to null. -/
lemma evaluate_exists (a : Expr) :
    (Expr.unary .exists a).evaluate calls vars = (Expr.binary .notEqual a (.literal .null)).evaluate calls vars := by
  have hnull (v : Value) : v.looseEq .null = v.isNull := by
    cases v <;> simp [Value.looseEq, Value.isNull]
  have hand : BinaryOp.notEqual ≠ .and := nofun
  have hor : BinaryOp.notEqual ≠ .or := nofun
  rw [evaluate_binary hand hor, evaluate]
  refine bind_congr fun v => ?_
  simp only [pure_bind]
  show _ = (liftM (Except.ok (Value.bool !(v.looseEq .null)) : Except Error Value) : Evaluation σ Value)
  rw [hnull]
  rfl

/-- The two sides of a law are alike in every state. -/
theorem Interchangeable.alike (h : Interchangeable l r ops ops') (node : Address) (s : σ) :
    Alike calls vars node ops ops' node l r s := by
  cases h with
  | notAnd a b =>
    obtain ⟨c, hand⟩ := Junction.and
    obtain ⟨c', hor⟩ := Junction.or
    exact hand.alike hor a b node s
  | notOr a b =>
    obtain ⟨c, hor⟩ := Junction.or
    obtain ⟨c', hand⟩ := Junction.and
    exact hor.alike hand a b node s
  | notCondition c a b => exact alike_notCondition c a b node s
  | ifThen c a => exact .same (congrFun (evaluate_ifThen c a) s)
  | «exists» a => exact .same (congrFun (evaluate_exists a) s)

/-- Where one side of a law stands within an expression, the other can stand. The same functions are
resolved and applied to the same arguments, in the same order and with the same results. The outcomes
are the same, unless an operand of the law has a value that is no boolean: then both sides say so. -/
theorem evaluate_replaceAt (h : Interchangeable l r ops ops') (hl : e.at? node = some l) (calls : Calls σ φ)
    (vars : Resolver) (s : σ) :
    (∃ operands : List Expr, ops.map l.at? = operands.map some ∧ ops'.map r.at? = operands.map some) ∧
      (e.replaceAt node r).at? node = some r ∧
      (∃ log,
        e.evaluate calls.logged vars (s, []) = ((e.evaluate calls vars s).1, ((e.evaluate calls vars s).2, log)) ∧
        (e.replaceAt node r).evaluate calls.logged vars (s, []) =
          (((e.replaceAt node r).evaluate calls vars s).1, (((e.replaceAt node r).evaluate calls vars s).2, log))) ∧
      Alike calls vars node ops ops' [] e (e.replaceAt node r) s := by
  have halike (τ : Type) (calls : Calls τ φ) (t : τ) : Alike calls vars node ops ops' [] e (e.replaceAt node r) t :=
    .replaceAt (fun u => h.alike node u) List.suffix_rfl hl t
  refine ⟨h.operands, at?_replaceAt hl, ?_, halike σ calls s⟩
  obtain ⟨log, hlog⟩ := evaluate_logged calls vars e s []
  obtain ⟨log', hlog'⟩ := evaluate_logged calls vars (e.replaceAt node r) s []
  -- The log is part of the state that both evaluations end in.
  have hsame := (halike _ calls.logged (s, [])).state_eq
  rw [hlog, hlog'] at hsame
  obtain rfl : log = log' := congrArg Prod.snd hsame
  exact ⟨log, hlog, hlog'⟩

/-- An item of a list is no boolean where the law tests it. -/
theorem evaluate_replaceAt_item :
    let l : Expr := .unary .not (.binary .and (.literal (.bool true)) (.literal (.int 1)))
    let r : Expr := .binary .or (.unary .not (.literal (.bool true))) (.unary .not (.literal (.int 1)))
    let e : Expr := .list [.literal .null, l]
    Interchangeable l r [[0, 0], [1, 0]] [[0, 0], [0, 1]] ∧ e.at? [1] = some l ∧
      e.replaceAt [1] r = .list [.literal .null, r] ∧
      Alike Registry.calls .empty [1] [[0, 0], [1, 0]] [[0, 0], [0, 1]] [] e (.list [.literal .null, r]) {} := by
  intro l r e
  have hlaw : Interchangeable l r [[0, 0], [1, 0]] [[0, 0], [0, 1]] := .notAnd _ _
  have hitem : e.at? [1] = some l := rfl
  obtain ⟨-, -, -, halike⟩ := evaluate_replaceAt hlaw hitem Registry.calls .empty {}
  exact ⟨hlaw, hitem, rfl, halike⟩

end Expr

end EventRules
