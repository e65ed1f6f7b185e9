import EventRules.Proofs.Evaluation.Shape
import Mathlib.Data.List.Nodup
import Mathlib.Data.List.Infix

/-!
# Addresses of nodes

A node of an expression is named by the positions that lead to it from the root, so that two nodes
that look alike are told apart. `Expr.postOrder` lists the calls of an expression from left to right,
each after the calls within its arguments.
-/

namespace EventRules.Expr

/-- Where a node stands: the positions of the parts that lead to it, the innermost first. -/
abbrev Address := List Nat

variable {e a : Expr} {node other : Address} {i j : Nat}

/-- The node at an address. -/
def at? (e : Expr) : Address → Option Expr
  | [] => some e
  | i :: node => (e.at? node).bind fun a => a.parts[i]?

/-- An address goes into a part of the expression at the rest of the address. -/
lemma at?_cons : e.at? (i :: node) = some a ↔ ∃ above, e.at? node = some above ∧ above.parts[i]? = some a :=
  Option.bind_eq_some_iff

/-- The addresses of the calls within an expression that stands at an address, in post-order. -/
def postOrder (e : Expr) (node : Address) : List Address :=
  (e.parts.zipIdx.attach.flatMap fun ⟨p, h⟩ =>
    have := sizeOf_lt_of_mem_parts (mem_parts_of_mem_zipIdx h)
    p.1.postOrder (p.2 :: node)) ++ if e.isCall then [node] else []
termination_by e

/-- A post-order goes through the parts first and ends with the expression itself, if that is a call. -/
lemma postOrder_eq (e : Expr) (node : Address) :
    e.postOrder node =
      (e.parts.zipIdx.flatMap fun p => p.1.postOrder (p.2 :: node)) ++ if e.isCall then [node] else [] := by
  rw [postOrder]
  congr 1
  rw [List.flatMap_subtype (g := fun p => p.1.postOrder (p.2 :: node)) fun _ _ => rfl, List.unattach_attach]

/-- A node lies below one part only. -/
lemma position_unique (hi : i :: node <:+ other) (hj : j :: node <:+ other) : i = j := by
  have hsuffix : i :: node <:+ j :: node := List.suffix_of_suffix_length_le hi hj (Nat.le_refl _)
  have heq : i :: node = j :: node := hsuffix.eq_of_length rfl
  exact (List.cons.inj heq).1

/-- All addresses of a post-order are below the address it starts at. -/
lemma suffix_of_mem_postOrder (h : other ∈ e.postOrder node) : node <:+ other := by
  induction e using parts_induction generalizing node with
  | h e ih =>
    rw [postOrder_eq, List.mem_append] at h
    rcases h with h | h
    · obtain ⟨p, hp, hmem⟩ := List.mem_flatMap.1 h
      have hbelow := ih p.1 (mem_parts_of_mem_zipIdx hp) hmem
      exact (List.suffix_cons _ _).trans hbelow
    · split at h
      · cases List.mem_singleton.1 h
        exact List.suffix_rfl
      · cases h

/-- The calls before a call lie below it. -/
lemma ne_of_mem_postOrder {p : Expr × Nat} (h : other ∈ p.1.postOrder (p.2 :: node)) : other ≠ node := by
  have hlength := (suffix_of_mem_postOrder h).length_le
  rintro rfl
  exact absurd hlength (Nat.not_succ_le_self _)

/-- No call comes twice. -/
theorem nodup_postOrder (e : Expr) (node : Address) : (e.postOrder node).Nodup := by
  induction e using parts_induction generalizing node with
  | h e ih =>
    rw [postOrder_eq, List.nodup_append]
    refine ⟨?_, ?_, ?_⟩
    · rw [List.nodup_flatMap]
      refine ⟨fun p hp => ih p.1 (mem_parts_of_mem_zipIdx hp) _, ?_⟩
      have hnodup : (e.parts.zipIdx.map Prod.snd).Nodup := by
        rw [List.zipIdx_map_snd]
        exact List.nodup_range'
      rw [List.Nodup, List.pairwise_map] at hnodup
      refine hnodup.imp fun hne => ?_
      intro x hx hy
      exact hne (position_unique (suffix_of_mem_postOrder hx) (suffix_of_mem_postOrder hy))
    · split
      · exact List.nodup_singleton node
      · exact List.nodup_nil
    · intro x hx y hy
      obtain ⟨p, -, hmem⟩ := List.mem_flatMap.1 hx
      split at hy
      · rw [List.mem_singleton.1 hy]
        exact ne_of_mem_postOrder hmem
      · cases hy

/-- The calls of a part are calls of the whole. -/
lemma postOrder_at? (h : e.at? node = some a) : a.postOrder node ⊆ e.postOrder [] := by
  induction node generalizing a with
  | nil =>
    cases h
    exact List.Subset.refl _
  | cons i node ih =>
    obtain ⟨above, habove, hpart⟩ := at?_cons.1 h
    intro other hmem
    refine ih habove ?_
    rw [postOrder_eq]
    refine List.mem_append_left _ (List.mem_flatMap.2 ⟨(a, i), ?_, hmem⟩)
    rw [List.mem_zipIdx_iff_getElem?]
    exact hpart

/-- All addresses of a post-order are addresses of calls. -/
lemma call_of_mem_postOrder (h : e.at? node = some a) (hmem : other ∈ a.postOrder node) :
    ∃ name args, e.at? other = some (.call name args) := by
  induction a using parts_induction generalizing node with
  | h a ih =>
    rw [postOrder_eq, List.mem_append] at hmem
    rcases hmem with hmem | hmem
    · obtain ⟨p, hp, hmem⟩ := List.mem_flatMap.1 hmem
      have hpart : a.parts[p.2]? = some p.1 := List.mem_zipIdx_iff_getElem?.1 hp
      exact ih p.1 (mem_parts_of_mem_zipIdx hp) (at?_cons.2 ⟨a, h, hpart⟩) hmem
    · cases a with
      | call name args =>
        cases List.mem_singleton.1 hmem
        exact ⟨name, args, h⟩
      | _ => cases hmem

/-- The calls of an expression are the nodes at which a call stands. -/
theorem mem_postOrder : node ∈ e.postOrder [] ↔ ∃ name args, e.at? node = some (.call name args) := by
  constructor
  · exact call_of_mem_postOrder rfl
  · rintro ⟨name, args, h⟩
    refine postOrder_at? h ?_
    rw [postOrder_eq]
    exact List.mem_append_right _ List.mem_cons_self

end EventRules.Expr
