import EventRules.Proofs.Expr.Address
import Mathlib.Data.List.Flatten

/-!
# Traces of an evaluation

What happens while an expression is evaluated, node by node: the evaluation of a node begins, its
function is resolved, its function is applied, and its evaluation ends with a result. `Expr.trace`
lists these events; `Expr.replays_trace` says that the resolutions and applications in it are all that
the evaluation does to its state, in that order.

A node evaluates some of its parts, one after the other. `Expr.visits` says which ones and in which
states, and `Expr.Visited` that each is evaluated in the state that the one before it left, up to the
first that fails. Whatever holds of traces follows from this by induction on the parts.
-/

namespace EventRules.Expr

variable {σ φ : Type}

/-- Something that happens at a node of an expression. -/
inductive Event (φ : Type) where
  | began (node : Address)
  | resolved (node : Address) (name : String) (result : Except Halt φ)
  | applied (node : Address) (f : φ) (args : List Value) (result : Except Halt Value)
  | ended (node : Address) (result : Except Halt Value)

/-- The node at which it happens. -/
def Event.node : Event φ → Address
  | began node | resolved node _ _ | applied node _ _ _ | ended node _ => node

/-- The node, if its function is applied. -/
def Event.appliedAt? : Event φ → Option Address
  | applied node _ _ _ => some node
  | _ => none

/-- Whether something fails. -/
def Event.failed : Event φ → Bool
  | began _ => false
  | resolved _ _ result => !result.isOk
  | applied _ _ _ result => !result.isOk
  | ended _ result => !result.isOk

/-- Whether an evaluation ends with an error. -/
def Event.surfaces : Event φ → Bool
  | ended _ result => !result.isOk
  | _ => false

/-- The evaluation of a part: its position, the part and the state that it is evaluated in. -/
structure Visit (σ : Type) where
  position : Nat
  part : Expr
  start : σ

variable (calls : Calls σ φ) (vars : Resolver)

/-- The evaluations of items from a position on, up to the first that fails. -/
def visitItems (i : Nat) : List Expr → σ → List (Visit σ)
  | [], _ => []
  | a :: rest, s =>
    ⟨i, a, s⟩ :: match a.evaluate calls vars s with
      | (.ok _, t) => visitItems (i + 1) rest t
      | (.error _, _) => []

/-- The evaluations of the first part and of the part that follows it. -/
def visitChoice (e : Expr) (c : Choice) (s : σ) : List (Visit σ) :=
  ⟨0, e.part 0, s⟩ :: match (e.part 0).evaluate calls vars s with
    | (.ok v, t) =>
      match v.test c.place with
      | .ok b => (c.next b).toList.map fun i => ⟨i, e.part i, t⟩
      | .error _ => []
    | (.error _, _) => []

/-- The evaluations of parts that the evaluation of a node consists of, in order. -/
def visits (e : Expr) (s : σ) : List (Visit σ) :=
  match e, e.choice? with
  | e, some c => visitChoice calls vars e c s
  | .call name args, none =>
    match calls.resolve name s with
    | (.ok _, t) => visitItems calls vars 0 args t
    | (.error _, _) => []
  | e, none => visitItems calls vars 0 e.parts s

/-- The events at a call before its parts are evaluated. -/
def opening (node : Address) : Expr → σ → List (Event φ)
  | .call name _, s => [.resolved node name (calls.resolve name s).1]
  | _, _ => []

/-- The events at a call after its parts were evaluated. -/
def closing (node : Address) : Expr → σ → List (Event φ)
  | .call name args, s =>
    match calls.resolve name s with
    | (.ok f, t) =>
      match evaluateItems calls vars args t with
      | (.ok values, u) => [.applied node f values (calls.apply f values u).1]
      | (.error _, _) => []
    | (.error _, _) => []
  | _, _ => []

/-! ## Parts that are evaluated -/

/-- Parts are evaluated one after the other, each in the state that the one before it left. The first
that fails is the last. -/
inductive Visited : σ → List (Visit σ) → Except Halt Unit → σ → Prop
  | nil (s : σ) : Visited s [] (.ok ()) s
  | next {i a s v t rest result u} :
    evaluate calls vars a s = (.ok v, t) →
    Visited t rest result u →
    Visited s (⟨i, a, s⟩ :: rest) result u
  | last {i a s err t} :
    evaluate calls vars a s = (.error err, t) →
    Visited s [⟨i, a, s⟩] (.error err) t

/-- How the evaluation of a node goes: what happens at a call before its parts, the parts, what
happens at a call after its parts, the result and the last state. -/
inductive Course (node : Address) :
    Expr → σ → List (Event φ) → List (Visit σ) → List (Event φ) → Except Halt Value → σ → Prop
  | plain {e s vs outcome result t} :
    e.isCall = false →
    Visited calls vars s vs outcome t →
    (∀ err, outcome = .error err → result = .error err) →
    Course node e s [] vs [] result t
  | refused {name args s err t} :
    calls.resolve name s = (.error err, t) →
    Course node (.call name args) s [.resolved node name (.error err)] [] [] (.error err) t
  | stopped {name args s f t vs err u} :
    calls.resolve name s = (.ok f, t) →
    Visited calls vars t vs (.error err) u →
    Course node (.call name args) s [.resolved node name (.ok f)] vs [] (.error err) u
  | applied {name args s f t vs values u result w} :
    calls.resolve name s = (.ok f, t) →
    evaluateItems calls vars args t = (.ok values, u) →
    vs = visitItems calls vars 0 args t →
    Visited calls vars t vs (.ok ()) u →
    calls.apply f values u = (result, w) →
    Course node (.call name args) s [.resolved node name (.ok f)] vs [.applied node f values result] result w

variable {calls vars} {e a : Expr} {s t : σ} {node other : Address}

/-- An item with a value is visited, and then the others are. -/
lemma visitItems_ok {i : Nat} {rest : List Expr} {v : Value} (h : a.evaluate calls vars s = (.ok v, t)) :
    visitItems calls vars i (a :: rest) s = ⟨i, a, s⟩ :: visitItems calls vars (i + 1) rest t := by
  simp only [visitItems, h]

/-- An item that fails is the last to be visited. -/
lemma visitItems_error {i : Nat} {rest : List Expr} {err : Halt}
    (h : a.evaluate calls vars s = (.error err, t)) : visitItems calls vars i (a :: rest) s = [⟨i, a, s⟩] := by
  simp only [visitItems, h]

/-- The items after one with a value are evaluated in the state that it leaves. -/
lemma evaluateItems_ok {rest : List Expr} {v : Value} (h : a.evaluate calls vars s = (.ok v, t)) :
    evaluateItems calls vars (a :: rest) s =
      ((evaluateItems calls vars rest t).1.map (v :: ·), (evaluateItems calls vars rest t).2) := by
  rw [evaluateItems, Run.bind_ok h]
  cases hrest : evaluateItems calls vars rest t with
  | mk result u =>
    cases result with
    | ok values =>
      rw [Run.bind_ok hrest]
      rfl
    | error err =>
      rw [Run.bind_error hrest]
      rfl

/-- The items after one that fails are not evaluated. -/
lemma evaluateItems_error {rest : List Expr} {err : Halt} (h : a.evaluate calls vars s = (.error err, t)) :
    evaluateItems calls vars (a :: rest) s = (.error err, t) := by
  rw [evaluateItems, Run.bind_error h]

/-- The items are visited in their order up to the first that fails. -/
lemma visited_items (calls : Calls σ φ) (vars : Resolver) (i : Nat) (items : List Expr) (s : σ) :
    Visited calls vars s (visitItems calls vars i items s)
      ((evaluateItems calls vars items s).1.map fun _ => ()) (evaluateItems calls vars items s).2 := by
  induction items generalizing i s with
  | nil =>
    rw [evaluateItems]
    exact .nil s
  | cons a rest ih =>
    cases h : a.evaluate calls vars s with
    | mk result t =>
      cases result with
      | ok v =>
        rw [visitItems_ok h, evaluateItems_ok h]
        have hrest := ih (i + 1) t
        cases hvalues : (evaluateItems calls vars rest t).1 <;> rw [hvalues] at hrest <;> exact .next h hrest
      | error err =>
        rw [visitItems_error h, evaluateItems_error h]
        exact .last h

/-- What a node with a choice visits is told by its choice. -/
lemma visits_choice (calls : Calls σ φ) (vars : Resolver) {c : Choice} (hc : e.choice? = some c) (s : σ) :
    visits calls vars e s = visitChoice calls vars e c s := by
  cases e <;> simp [visits, hc]

section

variable {c : Choice} {v : Value}

/-- Where the first part fails, it is all that is evaluated. -/
lemma choice_error {err : Halt} (hc : e.choice? = some c) (h : (e.part 0).evaluate calls vars s = (.error err, t)) :
    e.evaluate calls vars s = (.error err, t) ∧ visits calls vars e s = [⟨0, e.part 0, s⟩] := by
  constructor
  · rw [evaluate_choice hc, Run.bind_error h]
  · rw [visits_choice calls vars hc]
    simp only [visitChoice, h]

/-- Where its value stands for no boolean, nothing else is evaluated either. -/
lemma choice_untrue {err : Error} (hc : e.choice? = some c)
    (h : (e.part 0).evaluate calls vars s = (.ok v, t)) (htest : v.test c.place = .error err) :
    e.evaluate calls vars s = (.error (.failure err), t) ∧ visits calls vars e s = [⟨0, e.part 0, s⟩] := by
  constructor
  · rw [evaluate_choice hc, Run.bind_ok h, htest]
    rfl
  · rw [visits_choice calls vars hc]
    simp only [visitChoice, h, htest]

/-- Where the first part decides, it is the only one to be visited. -/
lemma choice_stop {b : Bool} (hc : e.choice? = some c) (h : (e.part 0).evaluate calls vars s = (.ok v, t))
    (htest : v.test c.place = .ok b) (hnext : c.next b = none) :
    e.evaluate calls vars s = (.ok c.stop, t) ∧ visits calls vars e s = [⟨0, e.part 0, s⟩] := by
  constructor
  · rw [evaluate_choice hc, Run.bind_ok h, htest]
    rw [Run.bind_ok (show (liftM (Except.ok b : Except Error Bool) : Evaluation σ Bool) t = (.ok b, t) from rfl), hnext]
    rfl
  · rw [visits_choice calls vars hc]
    simp only [visitChoice, h, htest, hnext]
    rfl

/-- The next part follows in the state that the first one left. -/
lemma choice_next {b : Bool} {j : Nat} (hc : e.choice? = some c)
    (h : (e.part 0).evaluate calls vars s = (.ok v, t)) (htest : v.test c.place = .ok b) (hnext : c.next b = some j) :
    e.evaluate calls vars s =
        ((((e.part j).evaluate calls vars t).1 >>= fun w => liftM (c.finish w)), ((e.part j).evaluate calls vars t).2) ∧
      visits calls vars e s = [⟨0, e.part 0, s⟩, ⟨j, e.part j, t⟩] := by
  constructor
  · rw [evaluate_choice hc, Run.bind_ok h, htest]
    rw [Run.bind_ok (show (liftM (Except.ok b : Except Error Bool) : Evaluation σ Bool) t = (.ok b, t) from rfl), hnext]
    show ((e.part j).evaluate calls vars >>= fun w => liftM (c.finish w)) t = _
    cases hj : (e.part j).evaluate calls vars t with
    | mk result u =>
      cases result with
      | ok w =>
        rw [Run.bind_ok hj]
        rfl
      | error err =>
        rw [Run.bind_error hj]
        rfl
  · rw [visits_choice calls vars hc]
    simp only [visitChoice, h, htest, hnext]
    rfl

end

/-- A node with a choice visits its first part, and at most one other that is told by it. -/
lemma visited_choice (calls : Calls σ φ) (vars : Resolver) {c : Choice} (hc : e.choice? = some c) (s : σ) :
    ∃ outcome, Visited calls vars s (visits calls vars e s) outcome (e.evaluate calls vars s).2 ∧
      ∀ err, outcome = .error err → (e.evaluate calls vars s).1 = .error err := by
  cases h : (e.part 0).evaluate calls vars s with
  | mk result t =>
    cases result with
    | error err =>
      obtain ⟨heval, hvisits⟩ := choice_error hc h
      rw [heval, hvisits]
      refine ⟨_, .last h, ?_⟩
      rintro _ ⟨⟩
      rfl
    | ok v =>
      cases htest : v.test c.place with
      | error err =>
        obtain ⟨heval, hvisits⟩ := choice_untrue hc h htest
        rw [heval, hvisits]
        exact ⟨_, .next h (.nil t), fun _ => nofun⟩
      | ok b =>
        cases hnext : c.next b with
        | none =>
          obtain ⟨heval, hvisits⟩ := choice_stop hc h htest hnext
          rw [heval, hvisits]
          exact ⟨_, .next h (.nil t), fun _ => nofun⟩
        -- The second part that is visited ends the evaluation: it fails, or its value is the last that
        -- is needed.
        | some i =>
          obtain ⟨heval, hvisits⟩ := choice_next hc h htest hnext
          rw [heval, hvisits]
          cases h' : (e.part i).evaluate calls vars t with
          | mk result u =>
            cases result with
            | error err =>
              refine ⟨_, .next h (.last h'), ?_⟩
              rintro _ ⟨⟩
              rfl
            | ok w => exact ⟨_, .next h (.next h' (.nil u)), fun _ => nofun⟩

/-- A node that combines its parts visits them all in order. -/
lemma visits_combine (hcall : e.isCall = false) (hc : e.choice? = none) (s : σ) :
    visits calls vars e s = visitItems calls vars 0 e.parts s := by
  cases e <;> simp_all [visits, isCall]

/-- Nothing but a call has a function to be resolved. -/
lemma opening_plain (hcall : e.isCall = false) (node : Address) (s : σ) : opening calls node e s = [] := by
  cases e <;> first | rfl | cases hcall

/-- Nothing but a call has a function to be applied. -/
lemma closing_plain (hcall : e.isCall = false) (node : Address) (s : σ) : closing calls vars node e s = [] := by
  cases e <;> first | rfl | cases hcall

/-- The evaluation of every node takes its course. -/
lemma course (calls : Calls σ φ) (vars : Resolver) (node : Address) (e : Expr) (s : σ) :
    Course calls vars node e s (opening calls node e s) (visits calls vars e s) (closing calls vars node e s)
      (e.evaluate calls vars s).1 (e.evaluate calls vars s).2 := by
  by_cases hcall : e.isCall = true
  · cases e with
    | call name args =>
      rw [evaluate_call]
      -- A call resolves its function before it visits its arguments, and applies it after that.
      cases hres : calls.resolve name s with
      | mk result t =>
        cases result with
        | error err =>
          rw [Run.bind_error hres]
          simp only [opening, closing, visits, choice?, hres]
          exact .refused hres
        | ok f =>
          rw [Run.bind_ok hres]
          simp only [opening, closing, visits, choice?, hres]
          have hvisited := visited_items calls vars 0 args t
          cases hvalues : evaluateItems calls vars args t with
          | mk result u =>
            rw [hvalues] at hvisited
            cases result with
            | error err =>
              rw [Run.bind_error hvalues]
              exact .stopped hres hvisited
            | ok values =>
              rw [Run.bind_ok hvalues]
              exact .applied hres hvalues rfl hvisited rfl
    | _ => cases hcall
  · rw [Bool.not_eq_true] at hcall
    rw [opening_plain hcall, closing_plain hcall]
    -- What is no call has only visits to tell of, by a choice or of all its parts.
    cases hc : e.choice? with
    | some c =>
      obtain ⟨outcome, hvisited, herror⟩ := visited_choice calls vars hc s
      exact .plain hcall hvisited herror
    | none =>
      rw [visits_combine hcall hc, evaluate_combine hcall hc]
      have hvisited := visited_items calls vars 0 e.parts s
      cases hvalues : evaluateItems calls vars e.parts s with
      | mk result t =>
        rw [hvalues] at hvisited
        cases result with
        | error err =>
          rw [Run.bind_error hvalues]
          refine .plain hcall hvisited ?_
          rintro _ ⟨⟩
          rfl
        | ok values =>
          rw [Run.bind_ok hvalues]
          exact .plain hcall hvisited fun _ => nofun

/-- Items that are visited are items in their order and places. -/
lemma visitItems_sublist (i : Nat) (items : List Expr) (s : σ) :
    ((visitItems calls vars i items s).map fun v => (v.part, v.position)).Sublist (items.zipIdx i) := by
  induction items generalizing i s with
  | nil => exact .slnil
  | cons a rest ih =>
    rw [List.zipIdx_cons]
    cases h : a.evaluate calls vars s with
    | mk result t =>
      cases result with
      | ok v =>
        rw [visitItems_ok h, List.map_cons]
        exact (ih (i + 1) t).cons_cons _
      | error err =>
        rw [visitItems_error h]
        exact (List.nil_sublist _).cons_cons _

/-- Parts that are visited by a choice are parts in their order and places. -/
lemma visitChoice_sublist {c : Choice} (hc : e.choice? = some c) (s : σ) :
    ((visitChoice calls vars e c s).map fun v => (v.part, v.position)).Sublist e.parts.zipIdx := by
  have hfirst : [(e.part 0, 0)].Sublist e.parts.zipIdx :=
    ((List.nil_sublist _).cons_cons _).trans (choice_sublist hc true)
  unfold visitChoice
  split
  case h_1 v t _ =>
    split
    case h_1 b _ =>
      have hboth := choice_sublist hc b
      simpa [Function.comp_def] using hboth
    case h_2 => exact hfirst
  case h_2 => exact hfirst

/-- The parts that are evaluated are some of the parts, in order and each at its position. -/
lemma visits_sublist (calls : Calls σ φ) (vars : Resolver) (e : Expr) (s : σ) :
    ((visits calls vars e s).map fun v => (v.part, v.position)).Sublist e.parts.zipIdx := by
  cases hc : e.choice? with
  | some c =>
    rw [visits_choice calls vars hc]
    exact visitChoice_sublist hc s
  | none =>
    by_cases hcall : e.isCall = true
    · cases e with
      | call name args =>
        simp only [visits, choice?]
        split
        case h_1 => exact visitItems_sublist 0 args _
        case h_2 => exact List.nil_sublist _
      | _ => cases hcall
    · rw [Bool.not_eq_true] at hcall
      rw [visits_combine hcall hc]
      exact visitItems_sublist 0 e.parts s

/-- What is visited is a part of the node. -/
lemma mem_parts_of_mem_visits {v : Visit σ} (h : v ∈ visits calls vars e s) : v.part ∈ e.parts :=
  mem_parts_of_mem_zipIdx ((visits_sublist calls vars e s).subset (List.mem_map_of_mem h))

/-! ## The trace -/

/-- What happens while an expression that stands at an address is evaluated. -/
def trace (calls : Calls σ φ) (vars : Resolver) (e : Expr) (node : Address) (s : σ) : List (Event φ) :=
  .began node :: (opening calls node e s ++
    ((visits calls vars e s).attach.flatMap fun ⟨v, h⟩ =>
      have := sizeOf_lt_of_mem_parts (mem_parts_of_mem_visits h)
      v.part.trace calls vars (v.position :: node) v.start) ++
    closing calls vars node e s ++ [.ended node (e.evaluate calls vars s).1])
termination_by e

/-- What happens while parts are evaluated. -/
def traces (calls : Calls σ φ) (vars : Resolver) (node : Address) (vs : List (Visit σ)) : List (Event φ) :=
  vs.flatMap fun v => v.part.trace calls vars (v.position :: node) v.start

/-- A trace begins with its node and ends with the result, and has the visits in between. -/
lemma trace_eq (e : Expr) (node : Address) (s : σ) :
    e.trace calls vars node s =
      .began node :: (opening calls node e s ++ traces calls vars node (visits calls vars e s) ++
        closing calls vars node e s ++ [.ended node (e.evaluate calls vars s).1]) := by
  rw [trace, traces,
    List.flatMap_subtype (g := fun v => v.part.trace calls vars (v.position :: node) v.start) fun _ _ => rfl,
    List.unattach_attach]

/-- What is told before the visits is the resolution of a call. -/
lemma mem_opening {ev : Event φ} (h : ev ∈ opening calls node e s) :
    ∃ name args, e = .call name args ∧ ev = .resolved node name (calls.resolve name s).1 := by
  cases e with
  | call name args => exact ⟨name, args, rfl, List.mem_singleton.1 h⟩
  | _ => cases h

/-- A function is applied to the values of the arguments, in the state that they left. -/
lemma mem_closing {ev : Event φ} (h : ev ∈ closing calls vars node e s) :
    ∃ name args f values t u, e = .call name args ∧ calls.resolve name s = (.ok f, t) ∧
      evaluateItems calls vars args t = (.ok values, u) ∧ ev = .applied node f values (calls.apply f values u).1 := by
  cases e with
  | call name args =>
    simp only [closing] at h
    split at h
    case h_1 f t hres =>
      split at h
      case h_1 values u hvalues =>
        exact ⟨name, args, f, values, t, u, rfl, hres, hvalues, List.mem_singleton.1 h⟩
      case h_2 => cases h
    case h_2 => cases h
  | _ => cases h

/-- What is told before the visits is told of the node. -/
lemma node_of_mem_opening {ev : Event φ} (h : ev ∈ opening calls node e s) : ev.node = node := by
  obtain ⟨name, args, -, rfl⟩ := mem_opening h
  rfl

/-- What is told after the visits is told of the node. -/
lemma node_of_mem_closing {ev : Event φ} (h : ev ∈ closing calls vars node e s) : ev.node = node := by
  obtain ⟨name, args, f, values, t, u, -, -, -, rfl⟩ := mem_closing h
  rfl

/-- What happens at a node happens to itself or within a part that is evaluated. -/
lemma mem_trace {ev : Event φ} (h : ev ∈ e.trace calls vars node s) :
    ev.node = node ∨ ∃ v ∈ visits calls vars e s, ev ∈ v.part.trace calls vars (v.position :: node) v.start := by
  rw [trace_eq] at h
  simp only [List.mem_cons, List.mem_append, List.not_mem_nil, or_false] at h
  rcases h with rfl | ((h | h) | h) | rfl
  · exact .inl rfl
  · exact .inl (node_of_mem_opening h)
  · exact .inr (List.mem_flatMap.1 h)
  · exact .inl (node_of_mem_closing h)
  · exact .inl rfl

/-- All that happens at an expression happens at its address or below. -/
lemma suffix_of_mem_trace {ev : Event φ} (h : ev ∈ e.trace calls vars node s) : node <:+ ev.node := by
  induction e using parts_induction generalizing node s with
  | h e ih =>
    rcases mem_trace h with rfl | ⟨v, hv, hmem⟩
    · exact List.suffix_rfl
    · exact (List.suffix_cons _ _).trans (ih v.part (mem_parts_of_mem_visits hv) hmem)

/-! ## What an evaluation does to its state -/

/-- The resolutions and applications among some events, done in order, give the results that the
events tell and bring one state to the other. -/
inductive Replays (calls : Calls σ φ) : σ → List (Event φ) → σ → Prop
  | nil (s : σ) : Replays calls s [] s
  | began {s node events t} : Replays calls s events t → Replays calls s (.began node :: events) t
  | ended {s node result events t} :
    Replays calls s events t → Replays calls s (.ended node result :: events) t
  | resolved {s node name result t events u} :
    calls.resolve name s = (result, t) →
    Replays calls t events u →
    Replays calls s (.resolved node name result :: events) u
  | applied {s node f values result t events u} :
    calls.apply f values s = (result, t) →
    Replays calls t events u →
    Replays calls s (.applied node f values result :: events) u

/-- To replay one trace and then another is to replay both. -/
lemma Replays.append {events events' : List (Event φ)} {u : σ} (h : Replays calls s events t)
    (h' : Replays calls t events' u) : Replays calls s (events ++ events') u := by
  induction h with
  | nil s => exact h'
  | began _ ih => exact .began (ih h')
  | ended _ ih => exact .ended (ih h')
  | resolved hres _ ih => exact .resolved hres (ih h')
  | applied happly _ ih => exact .applied happly (ih h')

/-- Visits are replayed if the trace of every part that is visited is. -/
lemma Visited.replays {vs : List (Visit σ)} {outcome : Except Halt Unit}
    (h : Visited calls vars s vs outcome t)
    (hparts : ∀ v ∈ vs, ∀ node s, Replays calls s (v.part.trace calls vars node s) (v.part.evaluate calls vars s).2)
    (node : Address) : Replays calls s (traces calls vars node vs) t := by
  induction h with
  | nil s => exact .nil s
  | @next i a s v t rest outcome u heval _ ih =>
    have hfirst := hparts _ List.mem_cons_self (i :: node) s
    simp only [heval] at hfirst
    exact hfirst.append (ih fun v hv => hparts v (List.mem_cons_of_mem _ hv))
  | @last i a s err t heval =>
    have hfirst := hparts _ List.mem_cons_self (i :: node) s
    simp only [heval] at hfirst
    rw [traces, List.flatMap_singleton]
    exact hfirst

/-- The trace of an evaluation accounts for all that it does to its state. -/
theorem replays_trace (calls : Calls σ φ) (vars : Resolver) (e : Expr) (node : Address) (s : σ) :
    Replays calls s (e.trace calls vars node s) (e.evaluate calls vars s).2 := by
  induction e using parts_induction generalizing node s with
  | h e ih =>
    have hparts (v : Visit σ) (hv : v ∈ visits calls vars e s) := ih v.part (mem_parts_of_mem_visits hv)
    have hcourse := course calls vars node e s
    rw [trace_eq]
    generalize opening calls node e s = before, visits calls vars e s = vs, closing calls vars node e s = after,
      (e.evaluate calls vars s).1 = result, (e.evaluate calls vars s).2 = t at hcourse hparts ⊢
    -- In every course the events of the parts stand between those of the node itself.
    refine .began ?_
    cases hcourse with
    | plain _ hvisited _ =>
      have hvs := hvisited.replays (fun v hv node s => hparts v hv node s) node
      exact (hvs.append (.nil _)).append (.ended (.nil _))
    | refused hres => exact .resolved hres (.ended (.nil _))
    | stopped hres hvisited =>
      have hvs := hvisited.replays (fun v hv node s => hparts v hv node s) node
      exact .resolved hres ((hvs.append (.nil _)).append (.ended (.nil _)))
    | applied hres _ _ hvisited happly =>
      have hvs := hvisited.replays (fun v hv node s => hparts v hv node s) node
      exact .resolved hres ((hvs.append (.applied happly (.nil _))).append (.ended (.nil _)))

end EventRules.Expr
