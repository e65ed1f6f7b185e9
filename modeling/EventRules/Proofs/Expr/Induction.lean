import EventRules.Expr.Basic
import Mathlib.Tactic.Lemma

/-!
# Induction on expressions

Expressions are nested in lists and in map entries. `Expr.induction` gives the induction with one
case for every kind of node, in which the parts are the members of those lists; `Expr.mem_nodes_…`
say where the nodes of an expression lie.
-/

namespace EventRules.Expr

/-- Induction on an expression, with the items of lists and the values of entries as members. -/
@[elab_as_elim]
theorem induction {motive : Expr → Prop}
    (literal : ∀ v, motive (.literal v))
    (var : ∀ name, motive (.variable name))
    (call : ∀ name args, (∀ a ∈ args, motive a) → motive (.call name args))
    (binary : ∀ op left right, motive left → motive right → motive (.binary op left right))
    (unary : ∀ op operand, motive operand → motive (.unary op operand))
    (ifThen : ∀ c t, motive c → motive t → motive (.ifThen c t))
    (ifElse : ∀ c t e, motive c → motive t → motive e → motive (.ifElse c t e))
    (list : ∀ items, (∀ a ∈ items, motive a) → motive (.list items))
    (map : ∀ entries, (∀ p ∈ entries, motive p.2) → motive (.map entries))
    (e : Expr) : motive e := by
  refine @Expr.rec motive (fun items => ∀ a ∈ items, motive a)
    (fun entries => ∀ p ∈ entries, motive p.2) (fun p => motive p.2)
    literal var call binary unary ifThen ifElse list map ?_ ?cons ?_ ?entry ?_ e
  case cons =>
    intro a rest iha ihrest b hb
    cases hb with
    | head => exact iha
    | tail _ hb => exact ihrest b hb
  case entry =>
    intro p rest ihp ihrest q hq
    cases hq with
    | head => exact ihp
    | tail _ hq => exact ihrest q hq
  · exact nofun
  · exact nofun
  · exact fun _ _ ih => ih

/-- The nodes of items are the nodes of each. -/
lemma mem_nodesOfItems {node : Expr} {items : List Expr} :
    node ∈ nodesOfItems items ↔ ∃ a ∈ items, node ∈ a.nodes := by
  induction items with
  | nil => simp [nodesOfItems]
  | cons a rest ih => simp [nodesOfItems, ih]

/-- The nodes of map entries are the nodes of each value. -/
lemma mem_nodesOfEntries {node : Expr} {entries : List (String × Expr)} :
    node ∈ nodesOfEntries entries ↔ ∃ p ∈ entries, node ∈ p.2.nodes := by
  induction entries with
  | nil => simp [nodesOfEntries]
  | cons p rest ih => simp [nodesOfEntries, ih]

end EventRules.Expr
