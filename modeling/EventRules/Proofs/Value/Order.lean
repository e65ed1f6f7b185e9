import EventRules.Evaluation.Operators
import Mathlib.Tactic.Lemma

/-!
# Coherence of equality and order

The equality of `==` and `in`, the order of `<` and the types that the operators take are given by three
tables. Away from floats they fit together: equality is that of values, and what is ordered are the
integers, the texts and the booleans, each type by itself and without ties.
-/

namespace EventRules

open Value

namespace Value

variable {a b c : Value}

/-- There is no float in the value. -/
inductive FloatFree : Value → Prop
  | null : FloatFree .null
  | bool (b : Bool) : FloatFree (.bool b)
  | int (n : Int64) : FloatFree (.int n)
  | string (s : String) : FloatFree (.string s)
  | list {items : List Value} : (∀ v ∈ items, FloatFree v) → FloatFree (.list items)
  | map {entries : Entries} : (∀ p ∈ entries, FloatFree p.2) → FloatFree (.map entries)

/-! ## Equality -/

/-- Lists are equal if they are so item by item. -/
lemma looseEqItems_iff {items items' : List Value} (h : ∀ v ∈ items, ∀ w ∈ items', looseEq v w = true ↔ v = w) :
    looseEqItems items items' = true ↔ items = items' := by
  induction items generalizing items' with
  | nil => cases items' <;> simp [looseEqItems]
  | cons v items ih =>
    cases items' with
    | nil => simp [looseEqItems]
    | cons w items' =>
      have hrest := ih fun x hx y hy => h x (List.mem_cons_of_mem _ hx) y (List.mem_cons_of_mem _ hy)
      rw [looseEqItems, Bool.and_eq_true, h v List.mem_cons_self w List.mem_cons_self, hrest, List.cons.injEq]

/-- Maps are equal if they are so entry by entry, keys included. -/
lemma looseEqEntries_iff {entries entries' : Entries}
    (h : ∀ p ∈ entries, ∀ q ∈ entries', looseEq p.2 q.2 = true ↔ p.2 = q.2) :
    looseEqEntries entries entries' = true ↔ entries = entries' := by
  induction entries generalizing entries' with
  | nil => cases entries' <;> simp [looseEqEntries]
  | cons p entries ih =>
    cases entries' with
    | nil => simp [looseEqEntries]
    | cons q entries' =>
      have hrest := ih fun x hx y hy => h x (List.mem_cons_of_mem _ hx) y (List.mem_cons_of_mem _ hy)
      have hfirst := h p List.mem_cons_self q List.mem_cons_self
      rw [looseEqEntries, Bool.and_eq_true, Bool.and_eq_true, beq_iff_eq, hfirst, hrest, List.cons.injEq, Prod.ext_iff]

/-- Values without floats are equal to `==` if they are the same. -/
theorem looseEq_iff (ha : FloatFree a) (hb : FloatFree b) : a.looseEq b = true ↔ a = b := by
  induction ha generalizing b with
  | null => cases hb <;> simp [looseEq]
  | bool _ => cases hb <;> simp [looseEq]
  | int _ => cases hb <;> simp [looseEq]
  | string _ => cases hb <;> simp [looseEq]
  | list _ ih =>
    cases hb with
    | list hitems =>
      rw [looseEq, Value.list.injEq]
      exact looseEqItems_iff fun v hv w hw => ih v hv (hitems w hw)
    | _ => simp [looseEq]
  | map _ ih =>
    cases hb with
    | map hentries =>
      rw [looseEq, Value.map.injEq]
      exact looseEqEntries_iff fun p hp q hq => ih p hp (hentries q hq)
    | _ => simp [looseEq]

/-! ## Order -/

/-- Two integers, two texts or two booleans. -/
inductive Comparable : Value → Value → Prop
  | int (m n : Int64) : Comparable (.int m) (.int n)
  | string (s t : String) : Comparable (.string s) (.string t)
  | bool (p q : Bool) : Comparable (.bool p) (.bool q)

/-- Whether values can be compared does not depend on their order. -/
lemma Comparable.symm (h : Comparable a b) : Comparable b a := by
  cases h with
  | int m n => exact .int n m
  | string s t => exact .string t s
  | bool p q => exact .bool q p

/-- Values that can be compared have an order, which is the other way round from the other side, and
which is equality for the same value only. -/
lemma Comparable.compare? (h : Comparable a b) :
    ∃ o, a.compare? b = some o ∧ b.compare? a = some o.swap ∧ (o = .eq ↔ a = b) := by
  cases h with
  | int m n =>
    refine ⟨compare m.toInt n.toInt, rfl, ?_, ?_⟩
    · exact congrArg some Std.OrientedOrd.eq_swap
    · rw [Std.compare_eq_iff_eq, Int64.toInt_inj, Value.int.injEq]
  | string s t =>
    refine ⟨compare s t, rfl, ?_, ?_⟩
    · show some (compare t s) = some (compare s t).swap
      exact congrArg some Std.OrientedOrd.eq_swap
    · rw [Std.compare_eq_iff_eq, Value.string.injEq]
  | bool p q =>
    refine ⟨compare p.toNat q.toNat, rfl, ?_, ?_⟩
    · exact congrArg some Std.OrientedOrd.eq_swap
    · rw [Std.compare_eq_iff_eq, Value.bool.injEq]
      cases p <;> cases q <;> decide

/-- Away from floats nothing else can be compared. -/
lemma compare?_eq_none (ha : FloatFree a) (hb : FloatFree b) (h : ¬Comparable a b) : a.compare? b = none := by
  cases ha with
  | int m =>
    cases hb with
    | int n => exact absurd (.int m n) h
    | _ => rfl
  | string s =>
    cases hb with
    | string t => exact absurd (.string s t) h
    | _ => rfl
  | bool p =>
    cases hb with
    | bool q => exact absurd (.bool p q) h
    | _ => rfl
  | _ => rfl

/-- Only values that can be compared have an order. -/
lemma comparable_of_compare? {o : Ordering} (ha : FloatFree a) (hb : FloatFree b) (h : a.compare? b = some o) :
    Comparable a b := by
  refine Classical.byContradiction fun hnone => ?_
  rw [compare?_eq_none ha hb hnone] at h
  cases h

/-- The order is transitive, strictly and with equality. -/
lemma Comparable.trans {o o' : Ordering} (hab : Comparable a b) (hbc : Comparable b c) (ho : a.compare? b = some o)
    (ho' : b.compare? c = some o') :
    ∃ o'', a.compare? c = some o'' ∧ (o.isLE = true → o'.isLE = true → o''.isLE = true) ∧
      (o.isLT = true → o'.isLT = true → o''.isLT = true) := by
  have hcompare {α : Type} [Ord α] [Std.TransOrd α] (x y z : α) :
      ((compare x y).isLE = true → (compare y z).isLE = true → (compare x z).isLE = true) ∧
        ((compare x y).isLT = true → (compare y z).isLT = true → (compare x z).isLT = true) := by
    refine ⟨Std.TransOrd.isLE_trans, fun hxy hyz => ?_⟩
    rw [Ordering.isLT_iff_eq_lt] at hxy hyz ⊢
    exact Std.TransCmp.lt_trans hxy hyz
  cases hab with
  | int m n =>
    cases hbc with
    | int _ k =>
      cases ho
      cases ho'
      exact ⟨_, rfl, hcompare m.toInt n.toInt k.toInt⟩
  | string s t =>
    cases hbc with
    | string _ u =>
      cases ho
      cases ho'
      exact ⟨_, rfl, hcompare s t u⟩
  | bool p q =>
    cases hbc with
    | bool _ k =>
      cases ho
      cases ho'
      exact ⟨_, rfl, hcompare p.toNat q.toNat k.toNat⟩

/-! ## Comparisons -/

/-- Only null counts as null. -/
lemma eq_null_of_isNull (h : a.isNull = true) : a = .null := by
  cases a with
  | null => rfl
  | _ => cases h

/-- Null is in no order with anything, itself included. -/
lemma comparison_null (h : a = .null ∨ b = .null) (op : BinaryOp) (accepts : Ordering → Bool) :
    comparison op accepts a b = .ok (.bool false) := by
  rcases h with rfl | rfl
  · rfl
  · rw [comparison, if_pos (by simp [isNull])]

/-- A comparison of values that can be compared asks for their order. -/
lemma Comparable.comparison {o : Ordering} (h : Comparable a b) (ho : a.compare? b = some o) (op : BinaryOp)
    (accepts : Ordering → Bool) : Value.comparison op accepts a b = .ok (.bool (accepts o)) := by
  have hnull : ¬(a.isNull || b.isNull) = true := by
    cases h <;> nofun
  rw [Value.comparison, if_neg hnull, ho]

/-- A comparison of other values is an error of types, unless one is null. -/
lemma comparison_incomparable (ha : FloatFree a) (hb : FloatFree b) (hna : a ≠ .null) (hnb : b ≠ .null)
    (h : ¬Comparable a b) (op : BinaryOp) (accepts : Ordering → Bool) :
    comparison op accepts a b = badOperands op a b := by
  have hnull : ¬(a.isNull || b.isNull) = true := by
    intro hor
    rcases Bool.or_eq_true_iff.mp hor with hnull | hnull
    · exact hna (eq_null_of_isNull hnull)
    · exact hnb (eq_null_of_isNull hnull)
  have hnumeric : ¬(a.isNumeric && b.isNumeric) = true := by
    intro hboth
    cases ha with
    | int m =>
      cases hb with
      | int n => exact h (.int m n)
      | _ => cases hboth
    | _ => cases hboth
  rw [comparison, if_neg hnull, compare?_eq_none ha hb h]
  exact if_neg hnumeric

/-- A comparison that holds says that the order is one of those accepted. -/
lemma of_comparison_true {op : BinaryOp} {accepts : Ordering → Bool} (ha : FloatFree a) (hb : FloatFree b)
    (h : comparison op accepts a b = .ok (.bool true)) :
    ∃ o, Comparable a b ∧ a.compare? b = some o ∧ accepts o = true := by
  by_cases hnull : a = .null ∨ b = .null
  · rw [comparison_null hnull] at h
    cases h
  · obtain ⟨hna, hnb⟩ := not_or.mp hnull
    by_cases hab : Comparable a b
    · obtain ⟨o, ho, -, -⟩ := hab.compare?
      rw [hab.comparison ho] at h
      cases haccepts : accepts o with
      | true => exact ⟨o, hab, ho, haccepts⟩
      | false =>
        rw [haccepts] at h
        cases h
    · rw [comparison_incomparable ha hb hna hnb hab] at h
      cases h

/-- Both results are the same boolean, or both say that the operands have the wrong types. -/
inductive SameTruth : Except Error Value → Except Error Value → Prop
  | truth (p : Bool) : SameTruth (.ok (.bool p)) (.ok (.bool p))
  | fault (f g : TypeFault) : SameTruth (.error (.type f)) (.error (.type g))

/-- A comparison and the one for the orders turned round say the same with the operands swapped. -/
lemma sameTruth_comparison (ha : FloatFree a) (hb : FloatFree b) {accepts accepts' : Ordering → Bool}
    (hswap : ∀ o : Ordering, accepts' o.swap = accepts o) (op op' : BinaryOp) :
    SameTruth (comparison op accepts a b) (comparison op' accepts' b a) := by
  by_cases hnull : a = .null ∨ b = .null
  · rw [comparison_null hnull, comparison_null hnull.symm]
    exact .truth false
  · obtain ⟨hna, hnb⟩ := not_or.mp hnull
    by_cases hab : Comparable a b
    · obtain ⟨o, ho, hswapped, -⟩ := hab.compare?
      rw [hab.comparison ho, hab.symm.comparison hswapped, hswap]
      exact .truth _
    · rw [comparison_incomparable ha hb hna hnb hab, comparison_incomparable hb ha hnb hna fun h => hab h.symm]
      exact .fault _ _

end Value

/-- The orders that an operator of order accepts. -/
def BinaryOp.order? : BinaryOp → Option (Ordering → Bool)
  | .less => some (·.isLT)
  | .lessEq => some (·.isLE)
  | .greater => some (·.isGT)
  | .greaterEq => some (·.isGE)
  | _ => none

/-- The operators of order are comparisons. -/
lemma BinaryOp.eval_order {op : BinaryOp} {accepts : Ordering → Bool} (h : op.order? = some accepts) (a b : Value) :
    op.eval a b = a.comparison op accepts b := by
  cases op <;> cases h <;> rfl

namespace Value

variable {a b c : Value}

/-- What the operators of equality and order say about two values fits together. -/
structure Coherent (a b : Value) : Prop where
  /-- Equality is that of the values. -/
  equal : a.looseEq b = true ↔ a = b
  /-- The strict orders say the same from both sides. -/
  less_greater : SameTruth (BinaryOp.less.eval a b) (BinaryOp.greater.eval b a)
  /-- The orders with equality say the same from both sides. -/
  lessEq_greaterEq : SameTruth (BinaryOp.lessEq.eval a b) (BinaryOp.greaterEq.eval b a)
  /-- Values of one ordered type are less, equal or greater, and one of these only. -/
  comparable : Comparable a b → ∃ lt eq gt : Bool,
    BinaryOp.less.eval a b = .ok (.bool lt) ∧ BinaryOp.equal.eval a b = .ok (.bool eq) ∧
      BinaryOp.greater.eval a b = .ok (.bool gt) ∧ [lt, eq, gt].count true = 1 ∧
      BinaryOp.lessEq.eval a b = .ok (.bool (lt || eq))
  /-- Other values but null have no order: to compare them is an error. -/
  incomparable : a ≠ .null → b ≠ .null → ¬Comparable a b → ∀ op accepts, BinaryOp.order? op = some accepts →
    op.eval a b = .error (.type (.operands op a.typeName b.typeName))
  /-- Null is in no order with anything. -/
  null : a = .null ∨ b = .null → ∀ op accepts, BinaryOp.order? op = some accepts → op.eval a b = .ok (.bool false)

/-- Of two values of one ordered type, one is less, or they are equal. -/
lemma Comparable.trichotomy (h : Comparable a b) (heq : a.looseEq b = true ↔ a = b) : ∃ lt eq gt : Bool,
    BinaryOp.less.eval a b = .ok (.bool lt) ∧ BinaryOp.equal.eval a b = .ok (.bool eq) ∧
      BinaryOp.greater.eval a b = .ok (.bool gt) ∧ [lt, eq, gt].count true = 1 ∧
      BinaryOp.lessEq.eval a b = .ok (.bool (lt || eq)) := by
  obtain ⟨o, ho, -, hsame⟩ := h.compare?
  have hequal : a.looseEq b = o.isEq := by
    rw [Bool.eq_iff_iff, heq, ← hsame, Ordering.isEq_iff_eq_eq]
  refine ⟨o.isLT, o.isEq, o.isGT, h.comparison ho _ _, ?_, h.comparison ho _ _, ?_, ?_⟩
  · rw [← hequal]
    rfl
  · cases o <;> rfl
  · rw [BinaryOp.eval_order rfl, h.comparison ho]
    cases o <;> rfl

/-- The operators of equality and order are coherent on values without floats. -/
lemma FloatFree.coherent (ha : FloatFree a) (hb : FloatFree b) : Coherent a b where
  equal := looseEq_iff ha hb
  less_greater := sameTruth_comparison ha hb (fun o => by cases o <;> rfl) .less .greater
  lessEq_greaterEq := sameTruth_comparison ha hb (fun o => by cases o <;> rfl) .lessEq .greaterEq
  comparable h := h.trichotomy (looseEq_iff ha hb)
  incomparable hna hnb h op accepts hop := by
    rw [BinaryOp.eval_order hop, comparison_incomparable ha hb hna hnb h]
    rfl
  null h op accepts hop := by
    rw [BinaryOp.eval_order hop, comparison_null h]

/-- A comparison is transitive if the orders that it accepts are. -/
lemma comparison_trans (ha : FloatFree a) (hb : FloatFree b) (hc : FloatFree c) {op : BinaryOp}
    {accepts : Ordering → Bool}
    (haccepts : ∀ {o o' o'' : Ordering}, (o.isLE = true → o'.isLE = true → o''.isLE = true) ∧
      (o.isLT = true → o'.isLT = true → o''.isLT = true) →
      accepts o = true → accepts o' = true → accepts o'' = true)
    (hab : comparison op accepts a b = .ok (.bool true)) (hbc : comparison op accepts b c = .ok (.bool true)) :
    comparison op accepts a c = .ok (.bool true) := by
  obtain ⟨o, hcomp, ho, hacc⟩ := of_comparison_true ha hb hab
  obtain ⟨o', hcomp', ho', hacc'⟩ := of_comparison_true hb hc hbc
  obtain ⟨o'', ho'', htrans⟩ := hcomp.trans hcomp' ho ho'
  rw [(comparable_of_compare? ha hc ho'').comparison ho'', haccepts htrans hacc hacc']

/-- A value is in a list if it is one of the items. -/
lemma isMember_list {items : List Value} (ha : FloatFree a) (hitems : ∀ item ∈ items, FloatFree item) :
    ∃ p, isMember a (.list items) = .ok p ∧ (p = true ↔ a ∈ items) := by
  refine ⟨_, rfl, ?_⟩
  rw [List.any_eq_true]
  constructor
  · rintro ⟨item, hitem, heq⟩
    exact (looseEq_iff (hitems item hitem) ha).mp heq ▸ hitem
  · intro hmem
    exact ⟨a, hmem, (looseEq_iff (hitems a hmem) ha).mpr rfl⟩

/-- Away from floats equality is that of values, also inside a list, and the four orders are coherent
with it and with each other, and transitive. -/
theorem coherent_order {items : List Value} (ha : FloatFree a) (hb : FloatFree b) (hc : FloatFree c)
    (hitems : ∀ item ∈ items, FloatFree item) :
    Coherent a b ∧
      (∀ op, op = .less ∨ op = .lessEq → BinaryOp.eval op a b = .ok (.bool true) →
        op.eval b c = .ok (.bool true) → op.eval a c = .ok (.bool true)) ∧
      ∃ p, BinaryOp.isIn.eval a (.list items) = .ok (.bool p) ∧ (p = true ↔ a ∈ items) := by
  refine ⟨ha.coherent hb, ?_, ?_⟩
  · rintro op (rfl | rfl)
    · exact comparison_trans ha hb hc fun h => h.2
    · exact comparison_trans ha hb hc fun h => h.1
  · obtain ⟨p, hp, hmem⟩ := isMember_list ha hitems
    exact ⟨p, congrArg (Except.map Value.bool) hp, hmem⟩

/-- Three integers in order, the first of them an item of a list after a map with a list in it. -/
theorem coherent_order_integers :
    FloatFree (.int (-1)) ∧ FloatFree (.int 2) ∧ FloatFree (.int 3) ∧
      (∀ item ∈ [.map [("k", .list [.null])], .int (-1)], FloatFree item) ∧
      Coherent (.int (-1)) (.int 2) ∧ BinaryOp.less.eval (.int (-1)) (.int 3) = .ok (.bool true) ∧
      BinaryOp.isIn.eval (.int (-1)) (.list [.map [("k", .list [.null])], .int (-1)]) = .ok (.bool true) := by
  have hlist : FloatFree (.list [.null]) := .list fun v hv => List.mem_singleton.mp hv ▸ .null
  have hmap : FloatFree (.map [("k", .list [.null])]) := .map fun p hp => List.mem_singleton.mp hp ▸ hlist
  have hitems : ∀ item ∈ [.map [("k", .list [.null])], .int (-1)], FloatFree item := by
    intro item hitem
    rcases List.mem_cons.mp hitem with rfl | hlast
    · exact hmap
    · exact List.mem_singleton.mp hlast ▸ .int (-1)
  obtain ⟨hcoherent, htrans, p, hmember, hmem⟩ := coherent_order (.int (-1)) (.int 2) (.int 3) hitems
  have hp : p = true := hmem.mpr (List.mem_cons_of_mem _ List.mem_cons_self)
  exact ⟨.int (-1), .int 2, .int 3, hitems, hcoherent, htrans .less (.inl rfl) rfl rfl, hp ▸ hmember⟩

end Value

end EventRules
