import EventRules.Proofs.Parser.Construction

/-!
# The nesting of parsed expressions

How deep an expression is nested can be told from its tree. Parentheses leave no trace there, and
operands of a chain are not nested, so `Expr.nest` counts no more levels than the parser did: it keeps
to the limit of nesting, whatever the parser counted in between and gave back (`Expr.builds_nest`).
-/

namespace EventRules

namespace Expr

mutual

/-- How many levels of nesting there are inside the expression. The operands of binary operators and
the condition of a conditional are on the level of the whole, all other parts one level deeper. -/
def nest : Expr → Nat
  | .literal _ | .variable _ => 0
  | .call _ args => nestOfItems args
  | .binary _ left right => max (nest left) (nest right)
  | .unary _ operand => 1 + nest operand
  | .ifThen c t => max (nest c) (1 + nest t)
  | .ifElse c t e => max (nest c) (max (1 + nest t) (1 + nest e))
  | .list items => nestOfItems items
  | .map entries => nestOfEntries entries

/-- How many levels items add to the node that they are items of; none if there are no items. -/
def nestOfItems : List Expr → Nat
  | [] => 0
  | item :: rest => max (1 + nest item) (nestOfItems rest)

/-- How many levels the values of entries add to a map. -/
def nestOfEntries : List (String × Expr) → Nat
  | [] => 0
  | (_, value) :: rest => max (1 + nest value) (nestOfEntries rest)

end

variable {room : Nat} {e : Expr}

/-- Items that all nest within the room nest within it together. -/
lemma nestOfItems_le {items : List Expr} (h : ∀ a ∈ items, a.nest + 1 ≤ room) : nestOfItems items ≤ room := by
  induction items with
  | nil => exact Nat.zero_le room
  | cons a items ih =>
    obtain ⟨ha, hitems⟩ := List.forall_mem_cons.1 h
    rw [nestOfItems, Nat.add_comm]
    exact Nat.max_le.2 ⟨ha, ih hitems⟩

/-- Entries nest as deep as their values. -/
lemma nestOfEntries_eq (entries : List (String × Expr)) : nestOfEntries entries = nestOfItems (entries.map (·.2)) := by
  induction entries with
  | nil => rfl
  | cons p entries ih => rw [nestOfEntries, ih, List.map_cons, nestOfItems]

/-- If all parts are nested, there is room for their levels inside the whole. -/
lemma nest_le_of_parts (h : ∀ a ∈ e.parts, a.nest + 1 ≤ room) : e.nest ≤ room := by
  cases e with
  | literal v => exact Nat.zero_le room
  | «variable» name => exact Nat.zero_le room
  | call name args => exact nestOfItems_le h
  | list items => exact nestOfItems_le h
  | map entries =>
    rw [nest, nestOfEntries_eq]
    exact nestOfItems_le h
  | _ =>
    simp only [parts, List.forall_mem_cons] at h
    simp only [nest]
    omega

/-- Every step of the parser spends the room that its result nests in. -/
lemma builds_nest : Parser.Builds (fun room e => e.nest + 1 ≤ room) (fun room _ e => e.nest ≤ room) where
  literal _ := Nat.zero_le _
  node _ _ := nest_le_of_parts
  parentheses := Nat.le_of_succ_le
  binary hleft hright := Nat.max_le.2 ⟨hleft, hright⟩
  signs hc ha hb := by
    simp only [nest]
    omega
  loosen _ := id
  deeper := Nat.succ_le_succ

end Expr

namespace Expression

/-- A parsed expression keeps to the limit of nesting: it has the level of the whole, and room for all
levels inside it. -/
theorem nest_of_parse {source : String} {depth : Nat} {x : Expression} (h : parse source depth = .ok x) :
    x.root.nest + 1 ≤ depth :=
  nested_of_parse Expr.builds_nest h

/-- An operand of a product is a list with a conditional in it, of which one branch is a negation: with
the whole there are four levels. -/
theorem nest_of_parse_product :
    let source := "a * [b ? -c : d] - e"
    let root : Expr := .binary .subtract
      (.binary .multiply (.variable "a") (.list [.ifElse (.variable "b") (.unary .negate (.variable "c")) (.variable "d")]))
      (.variable "e")
    parse source 4 = .ok ⟨source, root⟩ ∧ root.nest = 3 ∧ root.nest + 1 ≤ 4 := by
  intro source root
  have htokens : tokenize source = .ok [⟨.identifier, "a", 0⟩, ⟨.operator, "*", 2⟩, ⟨.lbracket, "[", 4⟩,
      ⟨.identifier, "b", 5⟩, ⟨.operator, "?", 7⟩, ⟨.operator, "-", 9⟩, ⟨.identifier, "c", 10⟩, ⟨.colon, ":", 12⟩,
      ⟨.identifier, "d", 14⟩, ⟨.rbracket, "]", 15⟩, ⟨.operator, "-", 17⟩, ⟨.identifier, "e", 19⟩, .eof 20] := by
    decide +kernel
  have hparse : parse source 4 = .ok ⟨source, root⟩ := by
    rw [parse, htokens]
    rfl
  exact ⟨hparse, rfl, nest_of_parse hparse⟩

end Expression

end EventRules
