import EventRules.Proofs.Expr.Address

/-!
# Expressions with a part replaced

The place where an expression stands within a larger one is its address, and what surrounds it is the
larger expression. `Expr.replaceAt` puts another expression in that place. It goes outwards from the
address, node by node, and changes one part of each.
-/

namespace EventRules.Expr

variable {e a b : Expr} {i j : Nat} {node : Address}

/-- The node with another expression for the part at a position. -/
def withPart : Expr → Nat → Expr → Expr
  | .call name args, i, b => .call name (args.set i b)
  | .binary op _ right, 0, b => .binary op b right
  | .binary op left _, 1, b => .binary op left b
  | .unary op _, 0, b => .unary op b
  | .ifThen _ t, 0, b => .ifThen b t
  | .ifThen c _, 1, b => .ifThen c b
  | .ifElse _ t f, 0, b => .ifElse b t f
  | .ifElse c _ f, 1, b => .ifElse c b f
  | .ifElse c t _, 2, b => .ifElse c t b
  | .list items, i, b => .list (items.set i b)
  | .map entries, i, b => .map (entries.modify i fun p => (p.1, b))
  | e, _, _ => e

/-- The expression with another one for that at an address. -/
def replaceAt (e : Expr) : Address → Expr → Expr
  | [], b => b
  | i :: node, b =>
    match e.at? node with
    | some above => e.replaceAt node (above.withPart i b)
    | none => e

/-- Replacing a part replaces it in the list of parts. -/
lemma parts_withPart (e : Expr) (i : Nat) (b : Expr) : (e.withPart i b).parts = e.parts.set i b := by
  cases e with
  | literal v => rfl
  | «variable» name => rfl
  | call name args => rfl
  | binary op left right => rcases i with _ | _ | i <;> rfl
  | unary op operand => rcases i with _ | i <;> rfl
  | ifThen c t => rcases i with _ | _ | i <;> rfl
  | ifElse c t f => rcases i with _ | _ | _ | i <;> rfl
  | list items => rfl
  | map entries =>
    show (entries.modify i fun p => (p.1, b)).map Prod.snd = (entries.map Prod.snd).set i b
    rw [List.set_eq_modify]
    induction entries generalizing i with
    | nil => simp
    | cons p entries ih => cases i <;> simp [ih]

/-- Replacing the value of an entry leaves its key. -/
lemma keys_modify (entries : List (String × Expr)) (i : Nat) (b : Expr) :
    Keyed.keys (entries.modify i fun p => (p.1, b)) = Keyed.keys entries := by
  induction entries generalizing i with
  | nil => cases i <;> rfl
  | cons p entries ih =>
    cases i with
    | zero => rfl
    | succ i => exact congrArg (p.1 :: ·) (ih i)

/-- Another part makes the node no other kind of node. -/
lemma isCall_withPart (e : Expr) (i : Nat) (b : Expr) : (e.withPart i b).isCall = e.isCall := by
  cases e with
  | binary op left right => rcases i with _ | _ | i <;> rfl
  | unary op operand => rcases i with _ | i <;> rfl
  | ifThen c t => rcases i with _ | _ | i <;> rfl
  | ifElse c t f => rcases i with _ | _ | _ | i <;> rfl
  | _ => rfl

/-- What decides between the parts of an expression does not look into them. -/
lemma choice?_withPart (e : Expr) (i : Nat) (b : Expr) : (e.withPart i b).choice? = e.choice? := by
  cases e with
  | binary op left right => rcases i with _ | _ | i <;> cases op <;> rfl
  | unary op operand => rcases i with _ | i <;> rfl
  | ifThen c t => rcases i with _ | _ | i <;> rfl
  | ifElse c t f => rcases i with _ | _ | _ | i <;> rfl
  | _ => rfl

/-- How values are combined does not depend on the parts they come from. -/
lemma combine_withPart (vars : Resolver) (e : Expr) (i : Nat) (b : Expr) :
    (e.withPart i b).combine vars = e.combine vars := by
  funext values
  cases e with
  | binary op left right =>
    rcases i with _ | _ | i
    · rcases values with _ | ⟨v, _ | ⟨w, _ | ⟨x, rest⟩⟩⟩ <;> rfl
    · rcases values with _ | ⟨v, _ | ⟨w, _ | ⟨x, rest⟩⟩⟩ <;> rfl
    · rfl
  | unary op operand =>
    rcases i with _ | i
    · rcases values with _ | ⟨v, _ | ⟨w, rest⟩⟩ <;> cases op <;> rfl
    · rfl
  | ifThen c t => rcases i with _ | _ | i <;> rfl
  | ifElse c t f => rcases i with _ | _ | _ | i <;> rfl
  | map entries =>
    show Except.ok (Value.map (Keyed.ofPairs ((Keyed.keys (entries.modify i fun p => (p.1, b))).zip values))) = _
    rw [keys_modify]
    rfl
  | _ => rfl

/-- The part that was put in. -/
lemma part_withPart (h : e.parts[i]? = some a) : (e.withPart i b).part i = b := by
  obtain ⟨hi, -⟩ := List.getElem?_eq_some_iff.1 h
  rw [part, parts_withPart, List.getD_eq_getElem?_getD, List.getElem?_set_self hi, Option.getD_some]

/-- The other parts stay. -/
lemma part_withPart_ne (hij : i ≠ j) : (e.withPart i b).part j = e.part j := by
  rw [part, parts_withPart, List.getD_eq_getElem?_getD, List.getElem?_set_ne hij, ← List.getD_eq_getElem?_getD, part]

/-- A part that is there is the part at its index. -/
lemma part_eq (h : e.parts[i]? = some a) : e.part i = a := by
  rw [part, List.getD_eq_getElem?_getD, h, Option.getD_some]

/-- The expression that was put in stands where the other one stood. -/
lemma at?_replaceAt (h : e.at? node = some a) : (e.replaceAt node b).at? node = some b := by
  induction node generalizing a b with
  | nil => rfl
  | cons i node ih =>
    obtain ⟨above, habove, hpart⟩ := at?_cons.1 h
    obtain ⟨hi, -⟩ := List.getElem?_eq_some_iff.1 hpart
    rw [replaceAt, habove]
    refine at?_cons.2 ⟨above.withPart i b, ih habove, ?_⟩
    rw [parts_withPart, List.getElem?_set_self hi]

end EventRules.Expr
