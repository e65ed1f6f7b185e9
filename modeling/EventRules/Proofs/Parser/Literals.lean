import EventRules.Proofs.Parser.Construction

/-!
# Literals of parsed expressions

Whatever a source looks like, the literals of the expression that it parses to are scalars: a list or
a map in a source is a node with parts.
-/

namespace EventRules

/-- The literals of the expression are scalars. -/
def Expr.Plain (e : Expr) : Prop :=
  ∀ v, .literal v ∈ e.nodes → v.isScalar = true

namespace Expr

/-- A scalar is a plain literal. -/
lemma plain_literal {v : Value} (h : v.isScalar = true) : (Expr.literal v).Plain := by
  intro w hw
  cases List.mem_singleton.1 hw
  exact h

/-- A node that is no literal has scalar literals if its parts have. -/
lemma plain_of_parts {e : Expr} (he : ∀ v, e ≠ .literal v) (h : ∀ a ∈ e.parts, a.Plain) : e.Plain := by
  intro v hv
  rcases mem_nodes.1 hv with heq | ⟨a, ha, hn⟩
  · exact absurd heq.symm (he v)
  · exact h a ha v hn

/-- The parser makes no literals but scalars. -/
lemma builds_plain : Parser.Builds (fun _ => Plain) (fun _ _ => Plain) where
  literal := plain_literal
  node hliteral _ hparts := plain_of_parts hliteral hparts
  parentheses := id
  binary hleft hright := plain_of_parts nofun (by simp [parts, hleft, hright])
  signs hc ha hb := plain_of_parts nofun (by simp [parts, hc, ha, hb])
  loosen _ := id
  deeper := id

end Expr

/-- The literals of a parsed expression are scalars. -/
theorem Expression.plain_of_parse {source : String} {depth : Nat} {x : Expression}
    (h : Expression.parse source depth = .ok x) : x.root.Plain :=
  nested_of_parse Expr.builds_plain h

end EventRules
