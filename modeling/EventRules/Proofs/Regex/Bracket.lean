import EventRules.Proofs.Regex.Reading

/-!
# Reading a class in a group

A class in brackets is read to its closing bracket, and none stands behind the pattern: in the group as by itself a
class that is not closed in the pattern is no class, and one that is closed is the same class.
-/

namespace EventRules.Regex

open Text

variable {α β : Type} {least : Nat} {s t : Scan} {cs : List Char}

/-- The reader passes a closing bracket. -/
def PassesBracket (m : Reading α) : Prop :=
  ∀ s x s', m.run s = some (x, s') → ∃ used, s.rest = used ++ s'.rest ∧ ']' ∈ used

namespace PassesBracket

variable {m : Reading α} {f : α → Reading β}

/-- A reader that always fails passes whatever one likes. -/
lemma failure : PassesBracket (failure : Reading α) :=
  fun _ _ _ h => by cases h

/-- To pass a bracket is to pass a character. -/
lemma reads (h : PassesBracket m) : Reads 1 m := by
  intro s x s' hrun
  obtain ⟨used, hused, hmem⟩ := h s x s' hrun
  exact ⟨used, hused, List.length_pos_of_mem hmem⟩

/-- What is read before a bracket is passed does not matter. -/
lemma bind (hm : Reads least m) (hf : ∀ x, PassesBracket (f x)) : PassesBracket (m >>= f) := by
  intro s y s'' hrun
  obtain ⟨⟨x, s'⟩, hx, hy⟩ := Option.bind_eq_some_iff.1 hrun
  obtain ⟨used, hused, -⟩ := hm s x s' hx
  obtain ⟨used', hused', hmem⟩ := hf x s' y s'' hy
  exact ⟨used ++ used', by rw [hused, hused', List.append_assoc], List.mem_append_right used hmem⟩

/-- The bracket that is passed has to be there. -/
lemma mem (h : PassesBracket m) {x : α} (hrun : m.run s = some (x, t)) : ']' ∈ s.rest := by
  obtain ⟨used, hused, hmem⟩ := h s x t hrun
  exact hused ▸ List.mem_append_left t.rest hmem

end PassesBracket

/-- Both readers pass a closing bracket, and the first does in the group what the second does by itself with fewer
characters left than that. -/
structure Closes (fuel : Nat) (m m' : Reading α) : Prop where
  passes : PassesBracket m
  passes' : PassesBracket m'
  follows : ∀ s, s.rest.length < fuel → Follows (fun _ _ => False) s m m'

namespace Closes

variable {fuel : Nat} {m m' : Reading α} {f f' : α → Reading β}

/-- Readers that fail both close. -/
lemma failure : Closes fuel (failure : Reading α) Alternative.failure :=
  ⟨.failure, .failure, fun _ _ => .failure⟩

/-- What comes before the closing bracket does not go past the pattern. -/
lemma bind (hm : Local ']' 0 m) (used : α → Nat)
    (hused : ∀ s x t, m.run s = some (x, t) → t.rest.length + used x ≤ s.rest.length)
    (hf : ∀ x, Closes (fuel - used x) (f x) (f' x)) : Closes fuel (m >>= f) (m >>= f') where
  passes := .bind hm.reads fun x => (hf x).passes
  passes' := .bind hm.reads fun x => (hf x).passes'
  follows s hs := by
    refine (hm.follows s).bind (fun x t hlost _ _ hrun => absurd ((hf x).passes.mem hrun) hlost) fun x t ht => ?_
    have hlength := hused s x t ht
    exact (hf x).follows t (by omega)

end Closes

end EventRules.Regex
