import EventRules.Proofs.Evaluation.Operators
import EventRules.Proofs.Evaluation.Shape
import EventRules.Proofs.Parser.Soundness

/-!
# How parsed expressions are built

What is true of every expression that parses, by the way in which the parser builds it. `Parser.Gives`
says what is true of all that a parser gives. `Parser.Builds` says of two properties, one of what is
nested and one of what stands in a place of a level, that every node has the second if its parts have
the first or, for operands, the second. The parsers of the levels are gone through once: an expression
that parses has the property of what is nested (`Expression.nested_of_parse`).
-/

namespace EventRules

namespace Parser

variable {α β : Type} {P : α → Prop} {Q : β → Prop} {stop : Token} {item operand : Parser Expr}

/-- Whatever the parser gives has the property. -/
def Gives (P : α → Prop) (x : Parser α) : Prop :=
  ∀ ts a rest, x.run ts = .ok (a, rest) → P a

namespace Gives

/-- A result that is given at once has the property. -/
lemma pure {a : α} (h : P a) : Gives P (Pure.pure a : Parser α) := by
  rintro ts _ _ ⟨⟩
  exact h

/-- A failure gives nothing. -/
lemma failAt (t : Token) (fault : SyntaxFault) : Gives P (failAt t fault : Parser α) :=
  nofun

/-- Nothing is asked of any parser by a property of everything. -/
lemma any (x : Parser α) : Gives (fun _ => True) x :=
  fun _ _ _ _ => trivial

/-- What the second step gives may depend on what the first one gave. -/
lemma bind {x : Parser β} {f : β → Parser α} (hx : Gives Q x) (hf : ∀ b, Q b → Gives P (f b)) :
    Gives P (x >>= f) := by
  intro ts a rest h
  rw [StateT.run_bind] at h
  cases hrun : x.run ts with
  | error err =>
    rw [hrun] at h
    cases h
  | ok r =>
    obtain ⟨b, ts'⟩ := r
    rw [hrun] at h
    exact hf b (hx ts b ts' hrun) ts' a rest h

/-- What a parser takes before does not matter. -/
lemma after (x : Parser β) {f : β → Parser α} (hf : ∀ b, Gives P (f b)) : Gives P (x >>= f) :=
  (any x).bind fun b _ => hf b

/-- What is missing gives nothing. -/
lemma missing (what : Expected) : Gives P (missing stop what : Parser α) :=
  .after _ fun t => .failAt t _

/-- A parser that gives what is strong gives what is weak. -/
lemma mono {P' : α → Prop} {x : Parser α} (h : Gives P x) (himp : ∀ a, P a → P' a) : Gives P' x :=
  fun ts a rest hrun => himp a (h ts a rest hrun)

/-- An operator of a level is taken, or none. -/
lemma operator? (level : Level) : Gives (fun found => ∀ op ∈ found, op.level = level)
    (operator? stop level.operator?) := by
  refine .after _ fun t => ?_
  split
  case h_1 op ho =>
    split at ho
    case isTrue =>
      refine .after _ fun _ => .pure ?_
      rintro _ ⟨⟩
      exact (Level.operator?_eq_some ho).1
    case isFalse => cases ho
  case h_2 => exact .pure nofun

/-- Further items are given with what is true of an item. -/
lemma delimitedRest {N : Expr → Prop} {close : TokenKind} {what : Expected} (h : Gives N item) (fuel : Nat) :
    Gives (fun items => ∀ a ∈ items, N a) (delimitedRest stop item close what fuel) := by
  induction fuel with
  | zero => exact .missing _
  | succ fuel ih =>
    refine .after _ fun t => ?_
    split
    · refine .after _ fun _ => h.bind fun next hnext => ih.bind fun rest hrest => .pure ?_
      exact List.forall_mem_cons.2 ⟨hnext, hrest⟩
    · exact .after _ fun _ => .pure nofun

/-- All items between delimiters have what is true of one. -/
lemma delimited {N : Expr → Prop} {close : TokenKind} {what : Expected} (h : Gives N item) :
    Gives (fun items => ∀ a ∈ items, N a) (delimited stop item close what) := by
  refine .after _ fun t => ?_
  split
  · exact .after _ fun _ => .pure nofun
  · refine h.bind fun first hfirst => .after _ fun _ => (h.delimitedRest _).bind fun rest hrest => .pure ?_
    exact List.forall_mem_cons.2 ⟨hfirst, hrest⟩

/-- The value of an entry has what is true of an item. -/
lemma mapEntry {N : Expr → Prop} (h : Gives N item) : Gives (fun p => N p.2) (mapEntry stop item) :=
  .after _ fun _ => .after _ fun _ => h.bind fun _ hvalue => .pure hvalue

/-- Further entries are given with what is true of their values. -/
lemma mapRest {N : Expr → Prop} (h : Gives N item) (fuel : Nat) :
    Gives (fun entries => ∀ p ∈ entries, N p.2) (mapRest stop item fuel) := by
  induction fuel with
  | zero => exact .missing _
  | succ fuel ih =>
    refine .after _ fun t => ?_
    split
    · refine .after _ fun _ => h.mapEntry.bind fun next hnext => ih.bind fun rest hrest => .pure ?_
      exact List.forall_mem_cons.2 ⟨hnext, hrest⟩
    · exact .after _ fun _ => .pure nofun

/-- All values of a map have what is true of one. -/
lemma mapEntries {N : Expr → Prop} (h : Gives N item) :
    Gives (fun entries => ∀ p ∈ entries, N p.2) (mapEntries stop item) := by
  refine .after _ fun t => ?_
  split
  · exact .after _ fun _ => .pure nofun
  · refine h.mapEntry.bind fun first hfirst => .after _ fun _ => (h.mapRest _).bind fun rest hrest => .pure ?_
    exact List.forall_mem_cons.2 ⟨hfirst, hrest⟩

end Gives

/-- A number is written as a float or an integer, neither of which has parts. -/
lemma isScalar_of_numberValue? {text : String} {v : Value} (h : numberValue? text = some v) : v.isScalar = true := by
  simp only [numberValue?] at h
  split at h
  · obtain ⟨x, -, rfl⟩ := Option.map_eq_some_iff.1 h
    rfl
  · obtain ⟨n, -, rfl⟩ := Option.map_eq_some_iff.1 h
    rfl

/-- What is true of expressions that are nested, with room for a number of further levels of nesting
inside them, and what is true of those that stand in a place of a level. -/
structure Builds (Nested : (room : Nat) → Expr → Prop) (Placed : (room : Nat) → Level → Expr → Prop) : Prop where
  literal {room : Nat} {v : Value} : v.isScalar = true → Placed room .primary (.literal v)
  /-- The parts of a node that is neither a literal nor an operation are nested. -/
  node {room : Nat} {e : Expr} : (∀ v, e ≠ .literal v) → (∀ op left right, e ≠ .binary op left right) →
    (∀ a ∈ e.parts, Nested room a) → Placed room .primary e
  /-- An expression in parentheses is nested and stands in a place of a primary. -/
  parentheses {room : Nat} {e : Expr} : Nested room e → Placed room .primary e
  binary {room : Nat} {op : BinaryOp} {left right : Expr} : Placed room op.level left →
    Placed room op.level.next right → Placed room op.level (.binary op left right)
  /-- The branches of a conditional that is written with its two signs are nested, its condition is not. -/
  signs {room : Nat} {c a b : Expr} : Placed room .or c → Nested room a → Nested room b →
    Placed room .conditional (.ifElse c a b)
  loosen {room : Nat} {e : Expr} (place : Level) : Placed room place.next e → Placed room place e
  deeper {room : Nat} {e : Expr} : Placed room .conditional e → Nested (room + 1) e

namespace Builds

variable {Nested : Nat → Expr → Prop} {Placed : Nat → Level → Expr → Prop} {room : Nat} {level : Level} {e : Expr}
  {deeper : Entry → Parser Expr}

/-- What stands in a place may stand in every looser one. -/
lemma loosen_le (h : Builds Nested Placed) {place : Level} (hle : place ≤ level) (he : Placed room level e) :
    Placed room place e :=
  Level.of_next (P := fun place => Placed room place e) (fun place _ => h.loosen place) hle he

/-- Each further operand is put behind what stands on the left, which stays in its place. -/
lemma chainRest (h : Builds Nested Placed) (hoperand : Gives (Placed room level.next) operand) (fuel : Nat)
    {left : Expr} (hleft : Placed room level left) :
    Gives (Placed room level) (chainRest stop level.operator? operand fuel left) := by
  induction fuel generalizing left with
  | zero => exact .pure hleft
  | succ fuel ih =>
    refine (Gives.operator? level).bind fun found hfound => ?_
    cases found with
    | none => exact .pure hleft
    | some op =>
      obtain rfl := hfound op rfl
      exact hoperand.bind fun right hright => ih (h.binary hleft hright)

/-- A chain stands in its place if its operands stand in the next tighter one. -/
lemma chain (h : Builds Nested Placed) (hoperand : Gives (Placed room level.next) operand) :
    Gives (Placed room level) (chain stop level.operator? operand) :=
  hoperand.bind fun _ hleft => .after _ fun _ => h.chainRest hoperand _ (h.loosen level hleft)

/-- The parts of a conditional in words are nested. -/
lemma conditionalWords (h : Builds Nested Placed) (hitem : Gives (Nested room) item) :
    Gives (Placed room .primary) (conditionalWords stop item) := by
  refine hitem.bind fun condition hcondition => .after _ fun t => ?_
  split
  · exact .missing _
  · refine .after _ fun _ => hitem.bind fun consequence hconsequence => .after _ fun t' => ?_
    split
    · refine .after _ fun _ => hitem.bind fun alternative halternative => .pure (h.node (by simp) (by simp) ?_)
      simp [Expr.parts, hcondition, hconsequence, halternative]
    · refine .pure (h.node (by simp) (by simp) ?_)
      simp [Expr.parts, hcondition, hconsequence]

/-- A word is a literal, a conditional or a name, which has no parts. -/
lemma word (h : Builds Nested Placed) (hitem : Gives (Nested room) item) :
    Gives (Placed room .primary) (word stop item) := by
  refine .after _ fun t => ?_
  split
  · exact .pure (h.literal rfl)
  · exact .pure (h.literal rfl)
  · exact .pure (h.literal rfl)
  · exact h.conditionalWords hitem
  · exact .pure (h.node nofun nofun nofun)

/-- A primary expression is a literal, or has nested parts, or is nested itself between parentheses. -/
lemma primary (h : Builds Nested Placed) (hitem : Gives (Nested room) item) :
    Gives (Placed room .primary) (primary stop item) := by
  refine .after _ fun t => ?_
  split
  · refine .after _ fun _ => ?_
    split
    case h_1 v hv => exact .pure (h.literal (isScalar_of_numberValue? hv))
    case h_2 => exact .failAt _ _
  · exact .after _ fun _ => .pure (h.literal rfl)
  · exact .after _ fun _ => hitem.bind fun e he => .after _ fun _ => .pure (h.parentheses he)
  · exact .after _ fun _ => hitem.delimited.bind fun items hitems => .pure (h.node nofun nofun hitems)
  · refine .after _ fun _ => hitem.mapEntries.bind fun entries hentries => .pure (h.node nofun nofun ?_)
    intro a ha
    obtain ⟨p, hp, rfl⟩ := List.mem_map.1 ha
    exact hentries p hp
  · exact h.word hitem
  · exact .missing _
  · exact .failAt _ _

/-- The arguments of a call are nested. -/
lemma call (h : Builds Nested Placed) (hitem : Gives (Nested room) item) :
    Gives (Placed room .primary) (call stop item) := by
  refine .after _ fun ts => ?_
  split
  · split
    · exact .after _ fun _ => hitem.delimited.bind fun args hargs => .pure (h.node nofun nofun hargs)
    · exact h.primary hitem
  · exact h.primary hitem

/-- A prefix operator with its operand may stand where a primary may. -/
lemma unary (h : Builds Nested Placed) {op : UnaryOp} (he : Nested room e) : Placed room .primary (.unary op e) :=
  h.node nofun nofun (by simp [Expr.parts, he])

/-- The operand of a prefix operator is nested, and without an operator a call stands there. -/
lemma prefixed (h : Builds Nested Placed) (hdeeper : ∀ entry, Gives (Nested room) (deeper entry)) :
    Gives (Placed room .unary) (prefixed stop deeper) := by
  refine .after _ fun t => ?_
  split
  · exact .after _ fun _ => (hdeeper .prefixed).bind fun e he => .pure (h.loosen .unary (h.unary he))
  · exact (h.call (hdeeper .expression)).mono fun _ => h.loosen .unary

/-- A comparison is a chain of sums, and those of products, and those of prefix operators. -/
lemma comparison (h : Builds Nested Placed) (hdeeper : ∀ entry, Gives (Nested room) (deeper entry)) :
    Gives (Placed room .comparison) (comparison stop deeper) :=
  have hproduct : Gives (Placed room .multiplicative) _ := h.chain (h.prefixed hdeeper)
  have hsum : Gives (Placed room .additive) _ := h.chain hproduct
  h.chain hsum

/-- What is negated is nested, and without a sign a comparison stands there. -/
lemma negation (h : Builds Nested Placed) (hdeeper : ∀ entry, Gives (Nested room) (deeper entry)) :
    Gives (Placed room .not) (negation stop deeper) := by
  refine .after _ fun t => ?_
  split
  · exact .after _ fun _ => (hdeeper .negation).bind fun e he => .pure (h.loosen_le (by decide) (h.unary he))
  · exact (h.comparison hdeeper).mono fun _ => h.loosen .not

/-- The branches between the signs of a conditional are nested, its condition stands in its own place. -/
lemma conditional (h : Builds Nested Placed) (hdeeper : ∀ entry, Gives (Nested room) (deeper entry)) :
    Gives (Placed room .conditional) (Parser.conditional stop deeper) := by
  have hconjunction : Gives (Placed room .and) (Parser.chain stop (Level.operator? .and) (Parser.negation stop deeper)) :=
    h.chain (h.negation hdeeper)
  have hdisjunction : Gives (Placed room .or) (disjunction stop deeper) := h.chain hconjunction
  refine hdisjunction.bind fun condition hcondition => .after _ fun t => ?_
  split
  · refine .after _ fun _ => (hdeeper .expression).bind fun consequence hconsequence => .after _ fun _ => ?_
    exact (hdeeper .expression).bind fun alternative halternative =>
      .pure (h.signs hcondition hconsequence halternative)
  · exact .pure (h.loosen .conditional hcondition)

/-- Each level of depth makes room for one more in what it gives. -/
lemma descend (h : Builds Nested Placed) (limit room : Nat) (entry : Entry) :
    Gives (Nested room) (descend stop limit room entry) := by
  induction room generalizing entry with
  | zero => exact .after _ fun t => .failAt t _
  | succ room ih =>
    cases entry with
    | expression => exact (h.conditional ih).mono fun _ he => h.deeper he
    | negation => exact (h.negation ih).mono fun _ he => h.deeper (h.loosen_le (Nat.zero_le _) he)
    | prefixed => exact (h.prefixed ih).mono fun _ he => h.deeper (h.loosen_le (Nat.zero_le _) he)

/-- A whole expression is nested with all the room there is. -/
lemma whole (h : Builds Nested Placed) (limit : Nat) : Gives (Nested limit) (whole stop limit) := by
  refine (h.descend limit limit .expression).bind fun e he => .after _ fun t => ?_
  split
  · exact .pure he
  · exact .failAt _ _

end Builds

end Parser

/-- An expression that parses is built as the parser builds expressions. -/
theorem Expression.nested_of_parse {Nested : Nat → Expr → Prop} {Placed : Nat → Level → Expr → Prop}
    (h : Parser.Builds Nested Placed) {source : String} {depth : Nat} {x : Expression}
    (hx : Expression.parse source depth = .ok x) : Nested depth x.root := by
  rw [Expression.parse] at hx
  cases htokens : tokenize source with
  | error err =>
    rw [htokens] at hx
    cases hx
  | ok tokens =>
    rw [htokens, Parser.ok_bind, Expr.ofTokens_eq] at hx
    cases hrun : (Parser.whole (TokenStream.ofTokens tokens).stop depth).run (TokenStream.ofTokens tokens).tokens with
    | error err =>
      rw [hrun] at hx
      cases hx
    | ok r =>
      rw [hrun] at hx
      cases hx
      exact h.whole depth _ r.1 r.2 hrun

end EventRules
