import EventRules.Proofs.Evaluation.Locality

/-!
# Orderly evaluation

`Expr.Orderly` says of the events of an evaluation all that is promised of their order, and
`Expr.orderly_trace` that every evaluation is orderly, for all functions and variables.
-/

namespace EventRules.Expr

variable {σ φ : Type} {calls : Calls σ φ} {vars : Resolver} {e a : Expr} {s t : σ} {node : Address} {i : Nat}
  {events inner : List (Event φ)} {ev : Event φ}

/-- A part is evaluated exactly if the first part has a value that passes a test. -/
structure Guarded (events : List (Event φ)) (node : Address) (i : Nat) (passes : Value → Prop) : Prop where
  tested : Entered events (i :: node) → ∃ v, .ended (0 :: node) (.ok v) ∈ events
  entered : ∀ v, .ended (0 :: node) (.ok v) ∈ events → (Entered events (i :: node) ↔ passes v)

/-- The events of an evaluation are in order. -/
structure Orderly (e : Expr) (events : List (Event φ)) : Prop where
  /-- Functions are applied in post-order, each call at most once. -/
  postOrder : (events.filterMap Event.appliedAt?).Sublist (e.postOrder [])
  /-- A function is looked up at a call of its name. -/
  resolved : ∀ node name result, .resolved node name result ∈ events → ∃ args, e.at? node = some (.call name args)
  /-- Nothing happens within an argument before the function was resolved. -/
  argument : ∀ node name args i ev, e.at? node = some (.call name args) → ev ∈ events → i :: node <:+ ev.node →
    ∃ f, Before events (.resolved node name (.ok f)) ev
  /-- A function is applied after it was resolved and after all arguments, to the values of these. -/
  applied : ∀ node f values result, .applied node f values result ∈ events →
    ∃ name args, e.at? node = some (.call name args) ∧ values.length = args.length ∧
      Before events (.resolved node name (.ok f)) (.applied node f values result) ∧
      ∀ i v, values[i]? = some v → Before events (.ended (i :: node) (.ok v)) (.applied node f values result)
  conjunction : ∀ node left right, e.at? node = some (.binary .and left right) →
    Guarded events node 1 (· = .bool true)
  disjunction : ∀ node left right, e.at? node = some (.binary .or left right) →
    Guarded events node 1 fun v => v = .null ∨ v = .bool false
  ifThen : ∀ node c t, e.at? node = some (.ifThen c t) → Guarded events node 1 (· = .bool true)
  ifElse : ∀ node c t f, e.at? node = some (.ifElse c t f) →
    Guarded events node 1 (· = .bool true) ∧ Guarded events node 2 fun v => v = .null ∨ v = .bool false
  /-- After a failure nothing is begun, looked up or applied: evaluations only end, and with errors. -/
  failure : events.Pairwise fun x y => x.failed = true → y.surfaces = true

/-! ## Tests -/

/-- It does not matter how the test of a guarded part is put. -/
lemma Guarded.congr {p q : Value → Prop} (h : Guarded events node i p) (hpq : ∀ v, p v ↔ q v) :
    Guarded events node i q :=
  ⟨h.tested, fun v hv => (h.entered v hv).trans (hpq v)⟩

/-- At a node that is not entered all parts are guarded. -/
lemma Guarded.of_not_entered {p : Value → Prop} (h : ¬Entered events node) : Guarded events node i p := by
  constructor
  · rintro ⟨ev, hmem, hev⟩
    exact absurd ⟨ev, hmem, (List.suffix_cons _ _).trans hev⟩ h
  · intro v hv
    exact absurd ⟨_, hv, List.suffix_cons _ _⟩ h

/-- What is guarded at a node is guarded in every trace around it. -/
lemma Surrounds.guarded {p : Value → Prop} (h : Surrounds node events inner) (hinner : Guarded inner node i p) :
    Guarded events node i p := by
  have hentered := h.entered_iff (List.suffix_cons i node)
  have hmem (v : Value) : .ended (0 :: node) (.ok v) ∈ events ↔ .ended (0 :: node) (.ok v) ∈ inner :=
    h.mem_iff (List.suffix_cons 0 node)
  constructor
  · intro hi
    obtain ⟨v, hv⟩ := hinner.tested (hentered.1 hi)
    exact ⟨v, (hmem v).2 hv⟩
  · intro v hv
    exact hentered.trans (hinner.entered v ((hmem v).1 hv))

/-- The events of a trace that happen at its own node. -/
lemma own_of_mem_trace (h : ev ∈ e.trace calls vars node s) (hnode : ev.node = node) :
    ev = .began node ∨ ev ∈ opening calls node e s ∨ ev ∈ closing calls vars node e s ∨
      ev = .ended node (e.evaluate calls vars s).1 := by
  rw [trace_eq] at h
  simp only [List.mem_cons, List.mem_append, List.not_mem_nil, or_false] at h
  rcases h with h | ((h | h) | h) | h
  · exact .inl h
  · exact .inr (.inl h)
  · -- What happens in a part happens below the node.
    obtain ⟨v, -, hbelow⟩ := mem_traces h
    rw [hnode] at hbelow
    exact absurd hbelow (not_suffix_self _ _)
  · exact .inr (.inr (.inl h))
  · exact .inr (.inr (.inr h))

/-- A node ends with the result of its evaluation. -/
lemma ended_of_mem_trace {result : Except Halt Value} (h : .ended node result ∈ e.trace calls vars node s) :
    result = (e.evaluate calls vars s).1 := by
  rcases own_of_mem_trace h rfl with h | h | h | h
  · cases h
  · obtain ⟨name, args, -, h⟩ := mem_opening h
    cases h
  · obtain ⟨name, args, f, values, t, u, -, -, -, h⟩ := mem_closing h
    cases h
  · cases h
    rfl

/-- A part ends with a result exactly if it is evaluated to it. -/
lemma ended_part {result : Except Halt Value} : .ended (i :: node) result ∈ e.trace calls vars node s ↔
    ∃ v ∈ visits calls vars e s, v.position = i ∧ result = (v.part.evaluate calls vars v.start).1 := by
  constructor
  · intro h
    obtain ⟨v, hv, hposition, hmem⟩ := mem_trace_part h List.suffix_rfl
    exact ⟨v, hv, hposition, ended_of_mem_trace hmem⟩
  · rintro ⟨v, hv, rfl, rfl⟩
    exact mem_trace_of_visit hv (ended_mem_trace _ _ _)

/-- The first part is not evaluated again. -/
lemma next_ne_zero {c : Choice} (hc : e.choice? = some c) (b : Bool) : c.next b ≠ some 0 := by
  cases e with
  | binary op left right =>
    cases op with
    | and =>
      cases hc
      cases b <;> nofun
    | or =>
      cases hc
      cases b <;> nofun
    | _ => cases hc
  | ifThen c t =>
    cases hc
    cases b <;> nofun
  | ifElse c t f =>
    cases hc
    cases b <;> nofun
  | _ => cases hc

/-- A part other than the first is evaluated exactly if the test of the first chooses it. -/
lemma guarded_trace {c : Choice} (hc : e.choice? = some c) (hi : i ≠ 0) :
    Guarded (e.trace calls vars node s) node i fun v => ∃ b, v.test c.place = .ok b ∧ c.next b = some i := by
  have hvisits := visits_choice calls vars hc s
  cases heval : (e.part 0).evaluate calls vars s with
  | mk result t =>
    simp only [visitChoice, heval] at hvisits
    have hfirst (v : Value) (h : .ended (0 :: node) (.ok v) ∈ e.trace calls vars node s) : result = .ok v := by
      obtain ⟨w, hw, hzero, hresult⟩ := ended_part.1 h
      rw [hvisits] at hw
      rcases List.mem_cons.1 hw with rfl | hw
      · rw [heval] at hresult
        exact hresult.symm
      · -- What follows the first part is another part.
        cases result with
        | error err => cases hw
        | ok v =>
          dsimp only at hw
          split at hw
          · obtain ⟨j, hj, rfl⟩ := List.mem_map.1 hw
            cases hzero
            exact absurd (Option.mem_toList.1 hj) (next_ne_zero hc _)
          · cases hw
    constructor
    · intro h
      obtain ⟨w, hw, rfl⟩ := entered_trace.1 h
      cases result with
      | ok v =>
        refine ⟨v, ended_part.2 ⟨⟨0, e.part 0, s⟩, ?_, rfl, ?_⟩⟩
        · rw [hvisits]
          exact List.mem_cons_self
        · rw [heval]
      | error err =>
        -- A first part that fails is the only one that is evaluated.
        rw [hvisits] at hw
        cases List.mem_singleton.1 hw
        exact absurd rfl hi
    · intro v hv
      cases hfirst v hv
      rw [entered_trace, hvisits]
      cases htest : v.test c.place with
      | error err =>
        constructor
        · rintro ⟨w, hw, rfl⟩
          simp only [htest] at hw
          cases List.mem_singleton.1 hw
          exact absurd rfl hi
        · rintro ⟨b, hb, -⟩
          cases hb
      | ok b =>
        simp only [htest]
        constructor
        · rintro ⟨w, hw, rfl⟩
          rcases List.mem_cons.1 hw with rfl | hw
          · exact absurd rfl hi
          · obtain ⟨j, hj, rfl⟩ := List.mem_map.1 hw
            exact ⟨b, rfl, Option.mem_toList.1 hj⟩
        · rintro ⟨b', hb, hnext⟩
          cases hb
          refine ⟨⟨i, e.part i, t⟩, List.mem_cons_of_mem _ (List.mem_map.2 ⟨i, ?_, rfl⟩), rfl⟩
          exact Option.mem_toList.2 hnext

/-- Of the tests one is passed by true alone, the other by null and false. -/
lemma test_iff (place : String) (v : Value) (b : Bool) :
    v.test place = .ok b ↔ if b then v = .bool true else v = .null ∨ v = .bool false := by
  cases v with
  | null => cases b <;> simp [Value.test]
  | bool b' => cases b <;> cases b' <;> simp [Value.test]
  | _ => cases b <;> simp [Value.test]

/-! ## Calls -/

/-- Nothing happens within an argument before the function of the call was resolved. -/
lemma argument_trace {name : String} {args : List Expr}
    (h : ev ∈ (Expr.call name args).trace calls vars node s) (hev : i :: node <:+ ev.node) :
    ∃ f, Before ((Expr.call name args).trace calls vars node s) (.resolved node name (.ok f)) ev := by
  obtain ⟨v, hv, -⟩ := entered_trace.1 ⟨ev, h, hev⟩
  cases hres : calls.resolve name s with
  | mk result t =>
    cases result with
    | error err =>
      simp only [visits, choice?, hres] at hv
      cases hv
    | ok f =>
      refine ⟨f, ?_⟩
      rw [trace_eq]
      simp only [opening, hres]
      have hfront : .resolved node name (.ok f) ∈ [Event.began node, .resolved node name (.ok f)] := by simp
      refine Before.of_mem hfront ?_
      intro hown
      have hnode : ev.node = node := by
        rcases List.mem_cons.1 hown with rfl | hown
        · rfl
        · rw [List.mem_singleton.1 hown]
          rfl
      rw [hnode] at hev
      exact not_suffix_self i node hev

/-- The values of arguments are the results of their evaluations. -/
lemma visit_of_value {items : List Expr} {values : List Value} {v : Value}
    (h : evaluateItems calls vars items s = (.ok values, t)) (hv : values[i]? = some v) :
    ∃ visit ∈ visitItems calls vars 0 items s,
      visit.position = i ∧ (visit.part.evaluate calls vars visit.start).1 = .ok v := by
  obtain ⟨hparts, hresults⟩ := visitItems_all 0 h
  have hresult : ((visitItems calls vars 0 items s).map fun v => (v.part.evaluate calls vars v.start).1)[i]? =
      some (.ok v) := by
    rw [hresults, List.getElem?_map, hv]
    rfl
  rw [List.getElem?_map, Option.map_eq_some_iff] at hresult
  obtain ⟨visit, hvisit, hresult⟩ := hresult
  refine ⟨visit, List.mem_of_getElem? hvisit, ?_, hresult⟩
  have hpart := congrArg (·[i]?) hparts
  simp only [List.getElem?_map, hvisit, List.getElem?_zipIdx, Option.map_some] at hpart
  obtain ⟨item, -, heq⟩ := Option.map_eq_some_iff.1 hpart.symm
  have hposition := (Prod.mk.inj heq).2
  omega

/-- A function is applied after it was resolved and after all arguments, to their values. -/
lemma applied_trace {f : φ} {values : List Value} {result : Except Halt Value}
    (h : .applied node f values result ∈ e.trace calls vars node s) :
    ∃ name args, e = .call name args ∧ values.length = args.length ∧
      Before (e.trace calls vars node s) (.resolved node name (.ok f)) (.applied node f values result) ∧
      ∀ i v, values[i]? = some v →
        Before (e.trace calls vars node s) (.ended (i :: node) (.ok v)) (.applied node f values result) := by
  have hclosing : .applied node f values result ∈ closing calls vars node e s := by
    rcases own_of_mem_trace h rfl with h | h | h | h
    · cases h
    · obtain ⟨name, args, -, h⟩ := mem_opening h
      cases h
    · exact h
    · cases h
  obtain ⟨name, args, g, ws, t, u, rfl, hres, hvalues, heq⟩ := mem_closing hclosing
  cases heq
  have hlength : values.length = args.length := by
    have hlengths := congrArg List.length (visitItems_all 0 hvalues).1
    have hlengths' := congrArg List.length (visitItems_all 0 hvalues).2
    simp only [List.length_map, List.length_zipIdx] at hlengths hlengths'
    omega
  refine ⟨name, args, rfl, hlength, ?_⟩
  have hvisits : visits calls vars (.call name args) s = visitItems calls vars 0 args t := by
    simp only [visits, choice?, hres]
  -- All of the trace before the call applies its function.
  have hfront : .applied node f values (calls.apply f values u).1 ∉
      Event.began node :: (opening calls node (.call name args) s ++
        traces calls vars node (visits calls vars (.call name args) s)) := by
    intro hmem
    simp only [List.mem_cons, List.mem_append] at hmem
    rcases hmem with hmem | hmem | hmem
    · cases hmem
    · obtain ⟨name', args', -, heq⟩ := mem_opening hmem
      cases heq
    · obtain ⟨v, -, hbelow⟩ := mem_traces hmem
      exact not_suffix_self _ _ hbelow
  have hsplit : (Expr.call name args).trace calls vars node s =
      (.began node :: (opening calls node (.call name args) s ++
        traces calls vars node (visits calls vars (.call name args) s))) ++
      (closing calls vars node (.call name args) s ++
        [.ended node ((Expr.call name args).evaluate calls vars s).1]) := by
    rw [trace_eq]
    simp only [List.cons_append, List.append_assoc]
  rw [hsplit]
  constructor
  · refine Before.of_mem (List.mem_cons_of_mem _ (List.mem_append_left _ ?_)) hfront
    simp only [opening, hres, List.mem_singleton]
  · intro i v hv
    obtain ⟨visit, hvisit, rfl, hresult⟩ := visit_of_value hvalues hv
    refine Before.of_mem (List.mem_cons_of_mem _ (List.mem_append_right _ ?_)) hfront
    rw [hvisits, ← hresult]
    exact List.mem_flatMap.2 ⟨visit, hvisit, ended_mem_trace _ _ _⟩

/-! ## The whole expression -/

/-- What holds of a test by itself holds of it within the expression. -/
lemma guarded_at {c : Choice} {p : Value → Prop} (h : e.at? node = some a) (hc : a.choice? = some c) (hi : i ≠ 0)
    (hp : ∀ v, (∃ b, v.test c.place = .ok b ∧ c.next b = some i) ↔ p v) :
    Guarded (e.trace calls vars [] s) node i p := by
  by_cases hentered : Entered (e.trace calls vars [] s) node
  · obtain ⟨t, hsurrounds⟩ := trace_surrounds h hentered
    exact hsurrounds.guarded ((guarded_trace hc hi).congr hp)
  · exact .of_not_entered hentered

/-- What happens at a node happens in the trace of the node that stands there. -/
lemma surrounds_of_mem (h : ev ∈ e.trace calls vars [] s) :
    ∃ a t, e.at? ev.node = some a ∧ ev ∈ a.trace calls vars ev.node t ∧
      Surrounds ev.node (e.trace calls vars [] s) (a.trace calls vars ev.node t) := by
  obtain ⟨a, ha⟩ := exists_at?_of_mem_trace rfl h
  obtain ⟨t, hsurrounds⟩ := trace_surrounds ha ⟨ev, h, List.suffix_rfl⟩
  exact ⟨a, t, ha, (hsurrounds.mem_iff List.suffix_rfl).1 h, hsurrounds⟩

/-- Every evaluation is orderly. -/
theorem orderly_trace (e : Expr) (s : σ) : Orderly e (e.trace calls vars [] s) where
  postOrder := applied_sublist e [] s
  resolved node name result h := by
    obtain ⟨a, t, ha, hmem, -⟩ := surrounds_of_mem h
    rcases own_of_mem_trace hmem rfl with h | h | h | h
    · cases h
    · obtain ⟨name', args, rfl, heq⟩ := mem_opening h
      cases heq
      exact ⟨args, ha⟩
    · obtain ⟨name', args, f, values, t, u, -, -, -, heq⟩ := mem_closing h
      cases heq
    · cases h
  argument node name args i ev ha hmem hev := by
    have hbelow := (List.suffix_cons i node).trans hev
    obtain ⟨t, hsurrounds⟩ := trace_surrounds ha ⟨ev, hmem, hbelow⟩
    obtain ⟨f, hbefore⟩ := argument_trace ((hsurrounds.mem_iff hbelow).1 hmem) hev
    exact ⟨f, hsurrounds.before hbelow hbefore⟩
  applied node f values result h := by
    obtain ⟨a, t, ha, hmem, hsurrounds⟩ := surrounds_of_mem h
    obtain ⟨name, args, rfl, hlength, hresolved, hargs⟩ := applied_trace hmem
    -- What holds of the call by itself holds in the trace around it.
    refine ⟨name, args, ha, hlength, hsurrounds.before List.suffix_rfl hresolved, fun i v hv => ?_⟩
    exact hsurrounds.before List.suffix_rfl (hargs i v hv)
  conjunction node left right h := guarded_at h rfl (by decide) fun v => by simp [test_iff]
  disjunction node left right h := guarded_at h rfl (by decide) fun v => by simp [test_iff]
  ifThen node c t h := guarded_at h rfl (by decide) fun v => by simp [test_iff]
  ifElse node c t f h :=
    ⟨guarded_at h rfl (by decide) fun v => by simp [test_iff],
      guarded_at h rfl (by decide) fun v => by simp [test_iff]⟩
  failure := (settles_trace e [] s).surfaces

end EventRules.Expr
