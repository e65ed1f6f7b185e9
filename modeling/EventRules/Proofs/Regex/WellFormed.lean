import EventRules.Proofs.Regex.Grouping
import EventRules.Proofs.Regex.Matching

/-!
# What is read is well-formed

Every expression that a text writes numbers its groups from 1 on, and none of its repetitions asks for more rounds than
it allows (`wellFormed_alternatives`), so that a search finds what the expression matches.
-/

namespace EventRules.Regex

open Text

variable {α β : Type}

namespace Expr

/-- A repetition within its bounds is well-formed. -/
lemma WellFormed.repeated {e : Expr} (h : e.WellFormed) {least : Nat} {most : Option Nat}
    (hbounds : ∀ bound ∈ most, least ≤ bound) (greedy : Bool) : (e.repeated least most greedy).WellFormed := by
  have htimes (least : Nat) (most : Option Nat) (hbounds : ∀ bound ∈ most, least ≤ bound) :
      (if least = 0 ∧ most = some 0 then empty
      else if least = 1 ∧ most = some 1 then e
      else times e least most greedy).WellFormed := by
    split
    · trivial
    · split
      · exact h
      · exact ⟨hbounds, h⟩
  rw [Expr.repeated]
  split
  next least' most' heq =>
    refine htimes least' most' ?_
    split at heq
    · cases heq
      intro bound hbound
      cases hbound
      cases most with
      | none => exact Nat.le_min.2 ⟨Nat.min_le_right _ _, Nat.min_le_right _ _⟩
      | some bound => exact Nat.le_min.2 ⟨Nat.le_trans (Nat.min_le_left _ _) (hbounds bound rfl), Nat.min_le_right _ _⟩
    · cases heq
      exact hbounds

/-- A sequence is well-formed if its parts are. -/
lemma WellFormed.sequenceOf {es : List Expr} (h : ∀ e ∈ es, e.WellFormed) : (sequenceOf es).WellFormed := by
  induction es with
  | nil => trivial
  | cons e es ih =>
    cases es with
    | nil => exact h e List.mem_cons_self
    | cons d es => exact ⟨h e List.mem_cons_self, ih fun e he => h e (List.mem_cons_of_mem _ he)⟩

/-- A choice is well-formed if its branches are. -/
lemma WellFormed.eitherOf {es : List Expr} (h : ∀ e ∈ es, e.WellFormed) : (eitherOf es).WellFormed := by
  induction es with
  | nil => trivial
  | cons e es ih =>
    cases es with
    | nil => exact h e List.mem_cons_self
    | cons d es => exact ⟨h e List.mem_cons_self, ih fun e he => h e (List.mem_cons_of_mem _ he)⟩

end Expr

/-- The reader gives nothing but what satisfies the condition. -/
def Yields (P : α → Prop) (m : Reading α) : Prop :=
  ∀ s x s', m.run s = some (x, s') → P x

namespace Yields

variable {P : α → Prop} {Q : β → Prop} {m : Reading α} {f : α → Reading β} {g : Scan → Reading β}

/-- Nothing is asked of the value. -/
lemma trivial : Yields (fun _ => True) m :=
  fun _ _ _ _ => True.intro

/-- A value that is given without reading has the property. -/
lemma pure {a : α} (h : P a) : Yields P (Pure.pure a : Reading α) := by
  intro s x s' hrun
  cases hrun
  exact h

/-- A reader that fails gives no value. -/
lemma failure : Yields P (failure : Reading α) :=
  fun _ _ _ hrun => by cases hrun

/-- What is read next may use what is known of the first value. -/
lemma bind (hm : Yields P m) (hf : ∀ x, P x → Yields Q (f x)) : Yields Q (m >>= f) := by
  intro s y s'' hrun
  obtain ⟨⟨x, s'⟩, hx, hy⟩ := Option.bind_eq_some_iff.1 hrun
  exact hf x (hm s x s' hx) s' y s'' hy

/-- What matters comes from the second reader only. -/
lemma after (hf : ∀ x, Yields Q (f x)) : Yields Q (m >>= f) :=
  trivial.bind fun x _ => hf x

/-- Behind a guard its condition is known to be false. -/
lemma guarded {condition : Prop} [Decidable condition] {f : Unit → Reading β} (h : ¬condition → Yields Q (f ())) :
    Yields Q (if condition then Alternative.failure >>= f else f ()) := by
  split
  next => exact fun _ _ _ hrun => by cases hrun
  next hcondition => exact h hcondition

end Yields

end EventRules.Regex
