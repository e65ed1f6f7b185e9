import EventRules.Proofs.Evaluation.Locality
import EventRules.Proofs.Parser.Construction
import EventRules.Proofs.Parser.RoundTrip
import EventRules.Proofs.Token.LineBreak

/-!
# How deep expressions are nested

The limit of nesting bounds how deep a parsed expression is, chains aside. A chain of operators of one
level groups to the left, and a longer chain is a deeper tree without being nested deeper. `Expr.links`
counts the steps along chains on the way to a node; `Expr.Within` is the bound on all other steps. The
levels of precedence between two levels of nesting add at most one step each, so the bound of a place
is larger by one than that of the next tighter place (`Expr.builds_fits`). No bound holds if the steps
along chains count (`Expression.parse_unbounded`).
-/

namespace EventRules

namespace Expr

variable {e a : Expr} {node : Address} {i bound bound' : Nat}

/-- Whether the step to a part goes along a chain: from an operation to a left operand that is an
operation of the same level. -/
def isLink : Expr → Nat → Bool
  | .binary op (.binary op' _ _) _, 0 => op'.level = op.level
  | _, _ => false

/-- How many steps on the way to a node go along chains. -/
def links (e : Expr) : Address → Nat
  | [] => 0
  | i :: node => e.links node + if (e.at? node).any (·.isLink i) then 1 else 0

/-- The first step on the way to a node leads to a part. -/
lemma at?_append (e : Expr) (node : Address) (i : Nat) : e.at? (node ++ [i]) = e.parts[i]?.bind (·.at? node) := by
  induction node with
  | nil => simp [at?]
  | cons j node ih =>
    rw [List.cons_append, at?, ih, Option.bind_assoc]
    rfl

/-- The links on the way to a part are those on the way to its node, and one more if the part goes on with a
chain. -/
lemma links_append (h : e.parts[i]? = some a) (node : Address) :
    e.links (node ++ [i]) = a.links node + if e.isLink i then 1 else 0 := by
  induction node with
  | nil => rfl
  | cons j node ih =>
    rw [List.cons_append, links, links, ih, at?_append, h, Option.bind_some]
    omega

/-- No node lies deeper than the bound and the links on the way to it. -/
def Within (bound : Nat) (e : Expr) : Prop :=
  ∀ node a, e.at? node = some a → node.length ≤ bound + e.links node

/-- A higher bound is kept as well. -/
lemma Within.mono (h : e.Within bound) (hle : bound ≤ bound') : e.Within bound' :=
  fun node a ha => Nat.le_trans (h node a ha) (Nat.add_le_add_right hle _)

/-- A node is one step further from the whole than from a part, unless the step is a link. -/
lemma within_of_parts (h : ∀ (i : Nat) (a : Expr), e.parts[i]? = some a → Within (if e.isLink i then bound + 1 else bound) a) :
    e.Within (bound + 1) := by
  intro node b hb
  rcases List.eq_nil_or_concat node with rfl | ⟨node, i, rfl⟩
  · exact Nat.zero_le _
  · rw [List.concat_eq_append, at?_append] at hb
    obtain ⟨a, ha, hb⟩ := Option.bind_eq_some_iff.1 hb
    have hlength := h i a ha node b hb
    rw [List.concat_eq_append, links_append ha, List.length_append, List.length_singleton]
    split at hlength
    case isTrue hlink =>
      rw [if_pos hlink]
      omega
    case isFalse hlink =>
      rw [if_neg hlink]
      omega

/-- Chains are made of operations alone. -/
lemma isLink_of_ne (h : ∀ op left right, e ≠ .binary op left right) (i : Nat) : e.isLink i = false := by
  cases e with
  | binary op left right => exact absurd rfl (h op left right)
  | _ => rfl

/-- A node that is no operation is one deeper than its parts. -/
lemma within_of_node (he : ∀ op left right, e ≠ .binary op left right) (h : ∀ a ∈ e.parts, a.Within bound) :
    e.Within (bound + 1) := by
  refine within_of_parts fun i a ha => ?_
  rw [isLink_of_ne he, if_neg Bool.false_ne_true]
  exact h a (List.mem_of_getElem? ha)

/-- How deep an expression in a place may be, where `room` levels of nesting are left. -/
def allowance (room : Nat) (place : Level) : Nat :=
  9 * room + (9 - place.rank)

/-- A tighter level allows no more. -/
lemma allowance_next (room : Nat) (place : Level) : allowance room place.next ≤ allowance room place := by
  cases place <;> simp [allowance, Level.next, Level.rank]

/-- The expression is as deep as it may be in a place, and less deep if it is an operand of a chain of
that level. -/
structure Fits (room : Nat) (place : Level) (e : Expr) : Prop where
  within : e.Within (allowance room place)
  operand : ∀ op : BinaryOp, op.level = place →
    (∃ op' left right, e = .binary op' left right ∧ op'.level = place) ∨ e.Within (allowance room place.next)

namespace Fits

variable {room : Nat} {place : Level}

/-- What is deep enough for the next tighter place fits. -/
lemma of_next (h : e.Within (allowance room place.next)) : Fits room place e where
  within := h.mono (allowance_next room place)
  operand _ _ := .inr h

/-- What is at most one step deeper than nested expressions fits in every place. -/
lemma of_step (h : e.Within (9 * room + 1)) : Fits room place e := by
  refine .of_next (h.mono ?_)
  cases place <;> simp [allowance, Level.next, Level.rank]

/-- What is no operation fits wherever it stands, if its parts are nested within the room. -/
lemma of_parts (he : ∀ op left right, e ≠ .binary op left right) (h : ∀ a ∈ e.parts, a.Within (9 * room)) :
    Fits room place e :=
  .of_step (within_of_node he h)

/-- An operation fits if its operands fit in their places, the left one in its own. -/
lemma binary {op : BinaryOp} {left right : Expr} (hleft : Fits room op.level left)
    (hright : Fits room op.level.next right) : Fits room op.level (.binary op left right) := by
  have hallowance : allowance room op.level = allowance room op.level.next + 1 := by
    cases op <;> rfl
  refine ⟨?_, fun _ _ => .inl ⟨op, left, right, rfl, rfl⟩⟩
  rw [hallowance]
  refine within_of_parts fun i a ha => ?_
  rcases i with _ | _ | i
  · cases ha
    split
    case isTrue =>
      rw [← hallowance]
      exact hleft.within
    case isFalse hlink =>
      refine (hleft.operand op rfl).resolve_left ?_
      rintro ⟨op', l, r, rfl, hlevel⟩
      exact hlink (by simpa [isLink] using hlevel)
  · cases ha
    have hlink : isLink (.binary op left right) 1 = false := by cases left <;> rfl
    rw [Nat.zero_add, hlink, if_neg Bool.false_ne_true]
    exact hright.within
  · cases ha

/-- A conditional in signs fits if its condition fits and its branches are nested within the room. -/
lemma signs {c a b : Expr} (hc : Fits room .or c) (ha : a.Within (9 * room)) (hb : b.Within (9 * room)) :
    Fits room .conditional (.ifElse c a b) where
  within := by
    have hle : 9 * room ≤ allowance room .or := Nat.le_add_right _ _
    refine within_of_node nofun fun d hd => ?_
    simp only [parts, List.mem_cons, List.not_mem_nil, or_false] at hd
    rcases hd with rfl | rfl | rfl
    · exact hc.within
    · exact ha.mono hle
    · exact hb.mono hle
  operand op hop := by cases op <;> cases hop

end Fits

/-- What the parser builds fits, with nine edges for each level of room. -/
lemma builds_fits : Parser.Builds (fun room => Within (9 * room)) Fits where
  literal _ := .of_parts nofun nofun
  node _ := .of_parts
  parentheses he := .of_step (he.mono (Nat.le_succ _))
  binary := .binary
  signs := .signs
  loosen _ he := .of_next he.within
  deeper he := he.within

end Expr

namespace Expression

/-- The limit of nesting bounds how deep a parsed expression is, and so how deep its evaluation goes:
whatever the length of the source, a node lies at most nine steps for each level of nesting below the
root, not counting the links of chains of operators. -/
theorem depth_of_parse {source : String} {depth : Nat} {x : Expression} (h : parse source depth = .ok x) :
    (∀ node a, x.root.at? node = some a → node.length ≤ 9 * depth + x.root.links node) ∧
      ∀ {σ φ : Type} (calls : Calls σ φ) (vars : Resolver) (s : σ), ∀ ev ∈ x.root.trace calls vars [] s,
        ev.node.length ≤ 9 * depth + x.root.links ev.node := by
  have hwithin : x.root.Within (9 * depth) := nested_of_parse Expr.builds_fits h
  refine ⟨hwithin, fun calls vars s ev hev => ?_⟩
  obtain ⟨a, ha⟩ := Expr.exists_at?_of_mem_trace rfl hev
  exact hwithin ev.node a ha

/-- The variable of a sum of three lies below one link. -/
theorem depth_of_parse_sum :
    let source := "a + b - -f(c)"
    let root : Expr := .binary .subtract (.binary .add (.variable "a") (.variable "b"))
      (.unary .negate (.call "f" [.variable "c"]))
    parse source 3 = .ok ⟨source, root⟩ ∧
      root.at? [0, 0] = some (.variable "a") ∧ root.links [0, 0] = 1 ∧
      [0, 0].length ≤ 9 * 3 + root.links [0, 0] ∧
      ∀ ev ∈ root.trace Registry.calls .empty [] { context := default }, ev.node.length ≤ 9 * 3 + root.links ev.node := by
  intro source root
  have htokens : tokenize source = .ok [⟨.identifier, "a", 0⟩, ⟨.operator, "+", 2⟩, ⟨.identifier, "b", 4⟩,
      ⟨.operator, "-", 6⟩, ⟨.operator, "-", 8⟩, ⟨.identifier, "f", 9⟩, ⟨.lparen, "(", 10⟩, ⟨.identifier, "c", 11⟩,
      ⟨.rparen, ")", 12⟩, .eof 13] := by decide +kernel
  have hparse : parse source 3 = .ok ⟨source, root⟩ := by
    rw [parse, htokens]
    rfl
  have hnode : root.at? [0, 0] = some (.variable "a") := rfl
  obtain ⟨hdepth, htrace⟩ := depth_of_parse hparse
  exact ⟨hparse, hnode, rfl, hdepth [0, 0] _ hnode, htrace Registry.calls .empty _⟩

end Expression

/-! ## Chains of any length -/

namespace Expr

/-- The expression with the variable `a` added to it `n` times. -/
def additions : (n : Nat) → Expr → Expr
  | 0, left => left
  | n + 1, left => additions n (.binary .add left (.variable "a"))

/-- What is added to lies as deep as there are additions. -/
lemma at?_additions (n : Nat) (left : Expr) : (additions n left).at? (List.replicate n 0) = some left := by
  induction n generalizing left with
  | zero => rfl
  | succ n ih =>
    rw [List.replicate_succ, additions, at?, ih, Option.bind_some]
    rfl

end Expr

/-- The lexemes of `n` additions of the variable `a`. -/
def Lexeme.additions (n : Nat) : List Lexeme :=
  (List.replicate n [operator "+", word "a"]).flatten

/-- A source that adds up `n + 1` times the variable `a`, each but the first on a line of its own. -/
def additionsSource : (n : Nat) → String
  | 0 => "a"
  | n + 1 => additionsSource n ++ "\n" ++ "+ a"

/-- The source of so many additions has the tokens of them. -/
lemma tokenize_additionsSource (n : Nat) : ∃ t ts position,
    tokenize (additionsSource n) = .ok (t :: ts ++ [Token.eof position]) ∧
      t.lexeme = .word "a" ∧ ts.map Token.lexeme = Lexeme.additions n := by
  induction n with
  | zero => exact ⟨⟨.identifier, "a", 0⟩, [], 1, rfl, rfl, rfl⟩
  | succ n ih =>
    obtain ⟨t, ts, position, htokens, ht, hts⟩ := ih
    let line : List Token := [⟨.operator, "+", 0⟩, ⟨.identifier, "a", 2⟩]
    have hline : tokenize "+ a" = .ok (line ++ [Token.eof 3]) := rfl
    have hall := tokenize_append htokens hline (.inr (by simp [line, Token.IsNegative]))
    rw [List.map_append, ← List.append_assoc] at hall
    refine ⟨t, ts ++ line.map (Token.shift _), _, hall, ht, ?_⟩
    rw [List.map_append, hts, Lexeme.additions, Lexeme.additions, List.replicate_succ', List.flatten_append]
    rfl

/-- There is no end of the input among the tokens of additions. -/
lemma Lexeme.kind_of_mem_additions {l : Lexeme} {n : Nat} (h : l ∈ additions n) : l.kind ≠ .eof := by
  simp only [additions, List.mem_flatten, List.mem_replicate] at h
  obtain ⟨_, ⟨-, rfl⟩, h⟩ := h
  simp only [List.mem_cons, List.not_mem_nil, or_false] at h
  rcases h with rfl | rfl <;> nofun

namespace Parser

variable {stop : Token} {operand : Parser Expr} {limit room n fuel : Nat} {t : Token} {ts rest : List Token} {left : Expr}

/-- After an operand stands the next addition or what ends the chain. -/
lemma ends_additions (hts : ts.map Token.lexeme = Lexeme.additions n) (hrest : Level.additive.Ends (front stop rest)) :
    Level.multiplicative.Ends (front stop (ts ++ rest)) := by
  cases n with
  | zero =>
    obtain rfl := List.map_eq_nil_iff.1 hts
    exact hrest.mono (by decide)
  | succ n =>
    obtain ⟨plus, tail, rfl, hplus, -⟩ := List.map_eq_cons_iff.1 hts
    have hplus : plus.lexeme = .operator BinaryOp.add.symbol := hplus
    exact .of_symbol hplus (by decide)

/-- However many additions there are, they are read as one chain. -/
lemma run_additions (hoperand : ∀ t us, t.lexeme = .word "a" → Level.multiplicative.Ends (front stop us) →
      operand.run (t :: us) = .ok (.variable "a", us))
    (hts : ts.map Token.lexeme = Lexeme.additions n) (hfuel : n ≤ fuel) (hrest : Level.additive.Ends (front stop rest)) :
    (chainRest stop (Level.operator? .additive) operand fuel left).run (ts ++ rest) =
      .ok (Expr.additions n left, rest) := by
  induction n generalizing fuel ts left with
  | zero =>
    obtain rfl := List.map_eq_nil_iff.1 hts
    exact run_chainRest_stop (hrest.no_operator _ (Nat.le_refl _)) fuel
  | succ n ih =>
    obtain ⟨fuel, rfl⟩ := Nat.exists_eq_succ_of_ne_zero (Nat.ne_of_gt (Nat.zero_lt_of_lt hfuel))
    obtain ⟨plus, tail, rfl, hplus, htail⟩ := List.map_eq_cons_iff.1 hts
    obtain ⟨t, us, rfl, ht, hus⟩ := List.map_eq_cons_iff.1 htail
    obtain ⟨hkind, htext⟩ := Token.lexeme_eq_iff.1 hplus
    have hop : Level.operator? .additive plus.text = some .add := by
      rw [htext]
      rfl
    rw [List.cons_append, List.cons_append,
      run_chainRest_op hkind hop (hoperand t (us ++ rest) ht (ends_additions hus hrest))]
    exact ih hus (Nat.le_of_succ_le_succ hfuel)

/-- Additions are read without any room for nesting. -/
lemma reads_additions (ht : t.lexeme = .word "a") (hts : ts.map Token.lexeme = Lexeme.additions n) :
    Reads stop limit room .additive .additive (t :: ts) (.additions n (.variable "a")) := by
  have hoperand (t : Token) (us : List Token) (ht : t.lexeme = .word "a")
      (hus : Level.multiplicative.Ends (front stop us)) :
      (Level.multiplicative.parser stop (descend stop limit room)).run (t :: us) = .ok (.variable "a", us) := by
    obtain ⟨hkind, htext⟩ := Token.lexeme_eq_iff.1 ht
    have hvariable : Reads stop limit room .primary .multiplicative [t] (.variable t.text) :=
      reads_variable hkind (by rw [htext]; decide) _
    have hproduct : Reads stop limit room .multiplicative .multiplicative [t] (.variable t.text) :=
      hvariable.loosen (ht ▸ .of_kind _ (by decide)) (by decide) (Nat.le_refl _)
    rw [htext] at hproduct
    exact hproduct us hus
  intro rest hrest
  show (chain stop (Level.operator? .additive) (Level.multiplicative.parser stop _)).run (t :: (ts ++ rest)) = _
  rw [run_chain (hoperand t (ts ++ rest) ht (ends_additions hts hrest))]
  refine run_additions hoperand hts ?_ hrest
  have hlength : ts.length = n * 2 := by
    rw [← List.length_map (f := Token.lexeme), hts]
    simp [Lexeme.additions]
  rw [List.length_append]
  omega

end Parser

namespace Expression

/-- However many variables are added up, the sum is one level of nesting. -/
lemma parse_additionsSource (n : Nat) :
    parse (additionsSource n) 1 = .ok ⟨additionsSource n, Expr.additions n (.variable "a")⟩ := by
  obtain ⟨t, ts, position, htokens, ht, hts⟩ := tokenize_additionsSource n
  obtain ⟨hkind, htext⟩ := Token.lexeme_eq_iff.1 ht
  have hfree : ∀ u ∈ t :: ts, u.kind ≠ .eof := by
    intro u hu
    rcases List.mem_cons.1 hu with rfl | hu
    · simp [hkind]
    · exact Lexeme.kind_of_mem_additions (hts ▸ List.mem_map_of_mem (f := Token.lexeme) hu)
  have hbegins : Expr.Begins t.lexeme .additive := ht ▸ .of_kind _ (by decide)
  have hparse : Expr.ofTokens (t :: ts ++ [Token.eof position]) 1 = .ok (.additions n (.variable "a")) := by
    refine Expr.ofTokens_of_reads hfree (by simp [Token.eof]) fun stop => ?_
    have hreads : Parser.Reads stop 1 0 .additive .additive (t :: ts) (.additions n (.variable "a")) :=
      Parser.reads_additions ht hts
    exact (hreads.follow_mono (by decide)).loosen hbegins (by decide) (Nat.le_refl _)
  rw [parse, htokens, Parser.ok_bind, hparse]
  rfl

/-- Where steps along chains count, no limit of nesting bounds how deep the expressions are that parse
under it. -/
theorem parse_unbounded :
    ¬ ∀ limit, ∃ bound, ∀ source x, parse source limit = .ok x →
      ∀ node a, x.root.at? node = some a → node.length ≤ bound := by
  intro h
  obtain ⟨bound, hbound⟩ := h 1
  have hlength := hbound _ _ (parse_additionsSource (bound + 1)) _ _ (Expr.at?_additions (bound + 1) _)
  rw [List.length_replicate] at hlength
  exact absurd hlength (Nat.not_succ_le_self _)

end Expression

end EventRules
