import EventRules.Evaluation.Basic
import EventRules.Proofs.Expr.Induction
import EventRules.Proofs.Run

/-!
# Three shapes of evaluation

However many kinds of nodes there are, evaluation treats a node in one of three ways. A call resolves
its function, evaluates all of its parts and applies the function. A node with a `Choice` evaluates
its first part, and by the truth of that one other part or none. Any other node evaluates all of its
parts and combines their values. What is to be shown of evaluation is shown of these three.
-/

namespace EventRules.Expr

variable {σ φ : Type} {calls : Calls σ φ} {vars : Resolver} {e a : Expr}

/-- The parts of an expression, from left to right. -/
def parts : Expr → List Expr
  | .literal _ | .variable _ => []
  | .call _ args => args
  | .binary _ left right => [left, right]
  | .unary _ operand => [operand]
  | .ifThen c t => [c, t]
  | .ifElse c t f => [c, t, f]
  | .list items => items
  | .map entries => entries.map (·.2)

/-- The part at a position. -/
def part (e : Expr) (i : Nat) : Expr :=
  e.parts.getD i (.literal .null)

/-- Parts are smaller than the whole. -/
lemma sizeOf_lt_of_mem_parts (h : a ∈ e.parts) : sizeOf a < sizeOf e := by
  cases e with
  | literal v => cases h
  | «variable» name => cases h
  | call name args =>
    have hlt : sizeOf a < sizeOf args := List.sizeOf_lt_of_mem h
    simp only [call.sizeOf_spec]
    omega
  | binary op left right =>
    simp only [parts, List.mem_cons, List.not_mem_nil, or_false] at h
    rcases h with rfl | rfl <;> simp only [binary.sizeOf_spec] <;> omega
  | unary op operand =>
    cases List.mem_singleton.1 h
    simp only [unary.sizeOf_spec]
    omega
  | ifThen c t =>
    simp only [parts, List.mem_cons, List.not_mem_nil, or_false] at h
    rcases h with rfl | rfl <;> simp only [ifThen.sizeOf_spec] <;> omega
  | ifElse c t f =>
    simp only [parts, List.mem_cons, List.not_mem_nil, or_false] at h
    rcases h with rfl | rfl | rfl <;> simp only [ifElse.sizeOf_spec] <;> omega
  | list items =>
    have hlt : sizeOf a < sizeOf items := List.sizeOf_lt_of_mem h
    simp only [list.sizeOf_spec]
    omega
  | map entries =>
    obtain ⟨⟨key, value⟩, hmem, rfl⟩ := List.mem_map.1 h
    have hlt := List.sizeOf_lt_of_mem hmem
    simp only [map.sizeOf_spec, Prod.mk.sizeOf_spec] at hlt ⊢
    omega

/-- Induction on an expression by its parts. -/
theorem parts_induction {motive : Expr → Prop} (h : ∀ e, (∀ a ∈ e.parts, motive a) → motive e) (e : Expr) :
    motive e :=
  h e fun a ha =>
    have := sizeOf_lt_of_mem_parts ha
    parts_induction h a
termination_by e

/-- The nodes of an expression are itself and the nodes of its parts. -/
lemma mem_nodes {n : Expr} : n ∈ e.nodes ↔ n = e ∨ ∃ a ∈ e.parts, n ∈ a.nodes := by
  cases e with
  | map entries =>
    rw [nodes, List.mem_cons, mem_nodesOfEntries]
    refine or_congr_right ⟨?_, ?_⟩
    · rintro ⟨p, hp, hn⟩
      exact ⟨p.2, List.mem_map_of_mem hp, hn⟩
    · rintro ⟨a, ha, hn⟩
      obtain ⟨p, hp, rfl⟩ := List.mem_map.1 ha
      exact ⟨p, hp, hn⟩
  | _ => simp [nodes, parts, mem_nodesOfItems]

/-- An expression is one of its nodes. -/
lemma mem_nodes_self (e : Expr) : e ∈ e.nodes :=
  mem_nodes.2 (.inl rfl)

/-- The nodes of a part are nodes of the whole. -/
lemma mem_nodes_of_mem_parts {n : Expr} (ha : a ∈ e.parts) (hn : n ∈ a.nodes) : n ∈ e.nodes :=
  mem_nodes.2 (.inr ⟨a, ha, hn⟩)

/-- The variables that an expression lists are those that occur in it. -/
lemma mem_variableNames {name : String} : name ∈ e.variableNames ↔ .variable name ∈ e.nodes := by
  rw [variableNames, List.mem_eraseDups, List.mem_filterMap]
  constructor
  · rintro ⟨a, ha, hname⟩
    cases a with
    | «variable» =>
      cases hname
      exact ha
    | _ => cases hname
  · exact fun h => ⟨_, h, rfl⟩

/-- How the evaluation of a node goes on after its first part. -/
structure Choice where
  /-- What tests the first part, in messages. -/
  place : String
  /-- The position of the part that follows, by the truth of the first. -/
  next : Bool → Option Nat
  /-- The value where no part follows. -/
  stop : Value
  /-- What becomes of the value of the part that follows. -/
  finish : Value → Except Error Value

/-- The choice of a node that does not evaluate all of its parts. -/
def choice? : Expr → Option Choice
  | .binary .and _ _ =>
    some ⟨"'&&'", fun b => if b then some 1 else none, .bool false, fun v => (v.test "'&&'").map .bool⟩
  | .binary .or _ _ =>
    some ⟨"'||'", fun b => if b then none else some 1, .bool true, fun v => (v.test "'||'").map .bool⟩
  | .ifThen _ _ => some ⟨"conditional", fun b => if b then some 1 else none, .null, .ok⟩
  | .ifElse _ _ _ => some ⟨"conditional", fun b => if b then some 1 else some 2, .null, .ok⟩
  | _ => none

/-- The part that follows a test stands after the one that is tested. -/
lemma choice_sublist {c : Choice} (hc : e.choice? = some c) (b : Bool) :
    ((0 :: (c.next b).toList).map fun i => (e.part i, i)).Sublist e.parts.zipIdx := by
  cases e with
  | binary op left right =>
    cases op with
    | and =>
      cases hc
      cases b <;> simp [parts, part]
    | or =>
      cases hc
      cases b <;> simp [parts, part]
    | _ => cases hc
  | ifThen c t =>
    cases hc
    cases b <;> simp [parts, part]
  | ifElse c t f =>
    cases hc
    cases b <;> simp [parts, part]
  | _ => cases hc

/-- A part with its place is a part. -/
lemma mem_parts_of_mem_zipIdx {p : Expr × Nat} (h : p ∈ e.parts.zipIdx) : p.1 ∈ e.parts := by
  rw [List.mem_zipIdx_iff_getElem?] at h
  exact List.mem_of_getElem? h

/-- A node with a choice evaluates none but its parts. -/
lemma part_mem_parts {c : Choice} (hc : e.choice? = some c) (b : Bool) {i : Nat} (hi : i ∈ 0 :: (c.next b).toList) :
    e.part i ∈ e.parts :=
  mem_parts_of_mem_zipIdx ((choice_sublist hc b).subset (List.mem_map_of_mem hi))

/-- The value of a node that is neither a call nor has a choice, by the values of its parts. -/
def combine (vars : Resolver) : Expr → List Value → Except Halt Value
  | .literal v, _ => .ok v
  | .variable name, _ => liftM (vars.lookup name)
  | .binary op _ _, [a, b] => liftM (op.eval a b)
  | .unary .not _, [a] => liftM ((a.test "'!'").map fun b => Value.bool !b)
  | .unary .exists _, [a] => .ok (.bool !a.isNull)
  | .unary .negate _, [a] => liftM a.negate
  | .list _, values => .ok (.list values)
  | .map entries, values => .ok (.map (Keyed.ofPairs ((Keyed.keys entries).zip values)))
  | _, _ => .ok .null

/-- Whether the node is a call. -/
def isCall : Expr → Bool
  | .call _ _ => true
  | _ => false

/-- To evaluate entries is to evaluate their values, and to put the keys back on. -/
lemma evaluateEntries_eq (entries : List (String × Expr)) (done : Entries) :
    evaluateEntries calls vars done entries = (do
      let values ← evaluateItems calls vars (entries.map (·.2))
      return ((Keyed.keys entries).zip values).foldl (fun done p => Keyed.insert done p.1 p.2) done) := by
  induction entries generalizing done with
  | nil => simp [evaluateEntries, evaluateItems, Keyed.keys]
  | cons p entries ih =>
    simp [evaluateEntries, evaluateItems, Keyed.keys, ih]

/-- A call resolves, evaluates its arguments and applies. -/
lemma evaluate_call (name : String) (args : List Expr) :
    (Expr.call name args).evaluate calls vars = (do
      let f ← calls.resolve name
      let values ← evaluateItems calls vars args
      calls.apply f values) := by
  rw [evaluate]

/-- A binary operator that evaluates both of its operands. -/
lemma evaluate_binary {op : BinaryOp} {left right : Expr} (hand : op ≠ .and) (hor : op ≠ .or) :
    (Expr.binary op left right).evaluate calls vars = (do
      let a ← left.evaluate calls vars
      let b ← right.evaluate calls vars
      op.eval a b) := by
  cases op with
  | and => exact absurd rfl hand
  | or => exact absurd rfl hor
  | _ => rfl

/-- A node with a choice evaluates its first part and perhaps another one. -/
lemma evaluate_choice {c : Choice} (h : e.choice? = some c) :
    e.evaluate calls vars = (do
      let b ← (← (e.part 0).evaluate calls vars).test c.place
      match c.next b with
      | some i => c.finish (← (e.part i).evaluate calls vars)
      | none => return c.stop) := by
  -- The four kinds of nodes with a choice differ in which of the two tests goes on, and in what they end
  -- with.
  cases e with
  | binary op left right =>
    cases op with
    | and =>
      cases h
      rw [evaluate]
      refine bind_congr fun v => bind_congr fun b => ?_
      cases b with
      | false => rfl
      | true => exact bind_congr fun w => (Run.lift_failure_map (w.test "'&&'") Value.bool).symm
    | or =>
      cases h
      rw [evaluate]
      refine bind_congr fun v => bind_congr fun b => ?_
      cases b with
      | false => exact bind_congr fun w => (Run.lift_failure_map (w.test "'||'") Value.bool).symm
      | true => rfl
    | _ => cases h
  | ifThen c t =>
    cases h
    rw [evaluate]
    refine bind_congr fun v => bind_congr fun b => ?_
    cases b with
    | false => rfl
    | true => exact (bind_pure _).symm
  | ifElse c t f =>
    cases h
    rw [evaluate]
    refine bind_congr fun v => bind_congr fun b => ?_
    cases b with
    | false => exact (bind_pure _).symm
    | true => exact (bind_pure _).symm
  | _ => cases h

/-- A node that is neither a call nor has a choice evaluates all of its parts. -/
lemma evaluate_combine (hcall : e.isCall = false) (h : e.choice? = none) :
    e.evaluate calls vars = (do
      e.combine vars (← evaluateItems calls vars e.parts)) := by
  cases e with
  | literal v =>
    rw [evaluate]
    rfl
  | «variable» name =>
    rw [evaluate]
    rfl
  | call name args => cases hcall
  | binary op left right =>
    -- The two operators with a choice are gone, so the others evaluate both operands.
    have hstrict : op ≠ .and ∧ op ≠ .or := by
      constructor
      · rintro rfl
        cases h
      · rintro rfl
        cases h
    rw [evaluate_binary hstrict.1 hstrict.2]
    simp only [parts, evaluateItems, combine, bind_assoc, pure_bind]
    rfl
  | unary op operand =>
    cases op with
    | not =>
      rw [evaluate]
      simp only [parts, evaluateItems, combine, bind_assoc, pure_bind]
      exact bind_congr fun v => (Run.lift_failure_map (v.test "'!'") _).symm
    | «exists» =>
      rw [evaluate]
      simp only [parts, evaluateItems, combine, bind_assoc, pure_bind]
      rfl
    | negate =>
      rw [evaluate]
      simp only [parts, evaluateItems, combine, bind_assoc, pure_bind]
      rfl
  | ifThen c t => cases h
  | ifElse c t f => cases h
  | list items =>
    rw [evaluate]
    rfl
  | map entries =>
    rw [evaluate, evaluateEntries_eq]
    simp only [bind_assoc, pure_bind]
    rfl

end EventRules.Expr
