import EventRules.Proofs.Expr.Spelling
import EventRules.Proofs.Parser.Run

/-!
# Places of the grammar

Every level of precedence has a parser, `Level.parser`, and a set of tokens that may follow an
expression in a place of that level, `Level.Ends`. `Parser.Reads` says that a parser takes certain
tokens off the front as an expression, whatever follows them, as long as it ends the place. What the
parser of a level reads, the parsers of all looser levels read too (`Reads.loosen`): this is how an
expression gets through the levels between its place and its own.
-/

namespace EventRules

namespace Level

/-- The binary operators of a level by their spelling. -/
def operator? : Level → String → Option BinaryOp
  | .or => fun s => if s = "||" then some .or else none
  | .and => fun s => if s = "&&" then some .and else none
  | .comparison => BinaryOp.comparison?
  | .additive => BinaryOp.additive?
  | .multiplicative => BinaryOp.multiplicative?
  | .conditional | .not | .unary | .primary => fun _ => none

/-- The parser of a place of a level, given the ways into the next deeper level of nesting. -/
def parser (stop : Token) (deeper : Entry → Parser Expr) : Level → Parser Expr
  | .conditional => Parser.conditional stop deeper
  | .or => Parser.disjunction stop deeper
  | .and => Parser.chain stop (operator? .and) (Parser.negation stop deeper)
  | .not => Parser.negation stop deeper
  | .comparison => Parser.comparison stop deeper
  | .additive =>
    Parser.chain stop BinaryOp.additive? <| Parser.chain stop BinaryOp.multiplicative? <|
      Parser.prefixed stop deeper
  | .multiplicative => Parser.chain stop BinaryOp.multiplicative? (Parser.prefixed stop deeper)
  | .unary => Parser.prefixed stop deeper
  | .primary => Parser.call stop (deeper .expression)

/-- A binary operator is known at its own level and at no other. -/
lemma operator?_symbol (op : BinaryOp) (level : Level) :
    level.operator? op.symbol = if op.level = level then some op else none := by
  cases op <;> cases level <;> rfl

/-- At the level of a binary operator stand chains of operands of the next tighter level. -/
lemma parser_eq_chain (stop : Token) (deeper : Entry → Parser Expr) (op : BinaryOp) :
    op.level.parser stop deeper =
      Parser.chain stop op.level.operator? (op.level.next.parser stop deeper) := by
  cases op <;> rfl

/-- What passes from each level to the next looser one passes to all looser ones. -/
lemma of_next {P : Level → Prop} {place level : Level} (h : ∀ place : Level, place.next ≤ level → P place.next → P place)
    (hle : place ≤ level) (hlevel : P level) : P place := by
  -- Induction on the number of levels between the two.
  obtain ⟨n, hn⟩ := Nat.le.dest (show place.rank ≤ level.rank from hle)
  induction n generalizing place with
  | zero =>
    have heq : place = level := by
      revert hn
      cases place <;> cases level <;> decide
    exact heq ▸ hlevel
  | succ n ih =>
    have hnext : place.next.rank = place.rank + 1 := by
      cases place with
      | primary => cases level <;> revert hn <;> simp [rank] <;> omega
      | _ => rfl
    have hle' : place.next ≤ level := by
      show place.next.rank ≤ level.rank
      omega
    exact h place hle' (ih hle' (by omega))

/-- A token that may follow an expression in a place of the level: it makes no call of a name,
continues no chain of the level or a tighter one, and belongs to no conditional of which the
expression could be a part. -/
structure Ends (place : Level) (t : Token) : Prop where
  no_paren : t.kind ≠ .lparen
  no_operator : ∀ level, place ≤ level → Parser.Misses level.operator? t
  no_conditional : place = .conditional → t.isOperator "?" = false ∧ t.isWord "else" = false

namespace Ends

variable {t : Token} {place level : Level}

/-- What ends a looser place ends a tighter one. -/
lemma mono (h : Ends place t) (hle : place ≤ level) : Ends level t where
  no_paren := h.no_paren
  no_operator other ho := h.no_operator other (Nat.le_trans hle ho)
  no_conditional hc := by
    subst hc
    cases place with
    | conditional => exact h.no_conditional rfl
    | _ => exact absurd hle (by decide)

/-- Closing and dividing tokens may follow anything. -/
lemma of_kind (h : t.kind ∉ [.lparen, .operator, .identifier]) : Ends place t := by
  simp only [List.mem_cons, List.not_mem_nil, or_false, not_or] at h
  obtain ⟨hp, ho, hi⟩ := h
  exact ⟨hp, fun _ _ hk => absurd hk ho, fun _ => by simp [Token.isOperator, Token.isWord, ho, hi]⟩

/-- A binary operator may follow an expression in any tighter place. -/
lemma of_symbol {op : BinaryOp} (h : t.lexeme = .operator op.symbol) (hlt : op.level < place) :
    Ends place t := by
  obtain ⟨hk, ht⟩ := Token.lexeme_eq_iff.1 h
  refine ⟨by rw [hk]; decide, fun level hle _ => ?_, ?_⟩
  · have hne : op.level ≠ level := by
      rintro rfl
      exact Nat.not_lt.2 hle hlt
    rw [ht, operator?_symbol, if_neg hne]
  · rintro rfl
    exact absurd hlt (Nat.not_lt_zero _)

/-- A question mark ends a disjunction. -/
lemma of_question (h : t.lexeme = .operator "?") : Ends .or t := by
  obtain ⟨hk, ht⟩ := Token.lexeme_eq_iff.1 h
  refine ⟨by rw [hk]; decide, fun level _ _ => ?_, nofun⟩
  rw [ht]
  cases level <;> rfl

/-- The word `then` ends every place. -/
lemma of_then (h : t.lexeme = .word "then") : Ends place t := by
  obtain ⟨hk, ht⟩ := Token.lexeme_eq_iff.1 h
  refine ⟨by rw [hk]; decide, fun _ _ ho => ?_, fun _ => ⟨?_, ?_⟩⟩
  · rw [hk] at ho
    cases ho
  · simp [Token.isOperator, hk]
  · simp [Token.isWord, ht, show Text.toLowerAscii "then" = "then" by decide]

end Ends

end Level

namespace Parser

variable {stop t : Token} {limit room : Nat} {ts : List Token} {level follow place : Level} {e : Expr}

/-- With room for `room` more levels of nesting, the parser of a level takes the tokens `ts` off the
front as `e`, wherever a token stands after them that may follow in a place of the level `follow`.
-/
def Reads (stop : Token) (limit room : Nat) (level follow : Level) (ts : List Token) (e : Expr) : Prop :=
  ∀ rest, follow.Ends (front stop rest) →
    (level.parser stop (descend stop limit room)).run (ts ++ rest) = .ok (e, rest)

namespace Reads

/-- What reads before any token that ends a place reads before those that end a looser one. -/
lemma follow_mono (h : Reads stop limit room level follow ts e) (hle : place ≤ follow) :
    Reads stop limit room level place ts e :=
  fun rest hr => h rest (hr.mono hle)

/-- A single operand is a chain. -/
lemma chain (op : BinaryOp) (h : Reads stop limit room op.level.next follow ts e)
    (hle : follow ≤ op.level) : Reads stop limit room op.level follow ts e := by
  intro rest hr
  rw [Level.parser_eq_chain, run_chain (h rest hr)]
  exact run_chainRest_stop (hr.no_operator _ hle) _

/-- What is read as a disjunction is read as a conditional, if no question mark follows. -/
lemma conditional (h : Reads stop limit room .or .conditional ts e) :
    Reads stop limit room .conditional .conditional ts e := by
  intro rest hr
  have hc := h rest hr
  simp only [Level.parser] at hc ⊢
  simp [Parser.conditional, hc, (hr.no_conditional rfl).1]

/-- What is read as a comparison is read as a negation, if it begins with no sign of that. -/
lemma negation (h : Reads stop limit room .comparison follow (t :: ts) e)
    (hb : t.lexeme ≠ .operator "!") : Reads stop limit room .not follow (t :: ts) e := by
  intro rest hr
  have hn : t.isOperator "!" = false := by
    rw [Bool.eq_false_iff]
    intro ho
    simp only [Token.isOperator, Bool.and_eq_true, beq_iff_eq] at ho
    exact hb (by rw [Token.lexeme, ho.1, ho.2]; rfl)
  have hc := h rest hr
  simp only [Level.parser, List.cons_append] at hc ⊢
  simp [Parser.negation, hn, hc]

/-- What is read as a primary is read behind no prefix operator. -/
lemma prefixed (h : Reads stop limit room .primary follow (t :: ts) e) (hb : t.kind ≠ .operator) :
    Reads stop limit room .unary follow (t :: ts) e := by
  intro rest hr
  have hc := h rest hr
  simp only [Level.parser, List.cons_append] at hc ⊢
  simp [Parser.prefixed, hb, hc]

/-- What reads at the next tighter level reads at a level, if it begins as the tighter level asks. -/
lemma loosen_step (h : Reads stop limit room place.next follow (t :: ts) e)
    (hb : Expr.Begins t.lexeme place.next) (hf : follow ≤ place) :
    Reads stop limit room place follow (t :: ts) e := by
  cases place with
  | conditional =>
    cases follow with
    | conditional => exact h.conditional
    | _ => exact absurd hf (by decide)
  | or => exact chain .or h hf
  | and => exact chain .and h hf
  | not => exact h.negation (hb.no_not (by decide))
  | comparison => exact chain .equal h hf
  | additive => exact chain .add h hf
  | multiplicative => exact chain .multiply h hf
  | unary => exact h.prefixed (hb.no_operator rfl)
  | primary => exact h

/-- What reads at a level reads at every looser one, if it begins as the level asks. -/
lemma loosen (h : Reads stop limit room level follow (t :: ts) e) (hb : Expr.Begins t.lexeme level)
    (hle : place ≤ level) (hf : follow ≤ place) : Reads stop limit room place follow (t :: ts) e := by
  refine Level.of_next (P := fun place => follow ≤ place → Reads stop limit room place follow (t :: ts) e) ?_ hle
    (fun _ => h) hf
  intro place hnext hreads hfollow
  have htighter : place ≤ place.next := by cases place <;> decide
  exact loosen_step (hreads (Nat.le_trans hfollow htighter)) (hb.mono hnext) hfollow

end Reads

end Parser

/-- Tokens that are read in the loosest place parse to what they are read as, if one level of nesting
more is allowed. -/
lemma Expr.ofTokens_of_reads {ts after : List Token} {room : Nat} {e : Expr} (hts : ∀ t ∈ ts, t.kind ≠ .eof)
    (hafter : ∀ t ∈ after.head?, t.kind = .eof)
    (h : ∀ stop, Parser.Reads stop (room + 1) room .conditional .conditional ts e) :
    ofTokens (ts ++ after) (room + 1) = .ok e := by
  have hstop := TokenStream.kind_stop (ts ++ after)
  have htokens : (TokenStream.ofTokens (ts ++ after)).tokens = ts := TokenStream.tokens_append hts hafter
  rw [ofTokens_eq, htokens]
  generalize (TokenStream.ofTokens (ts ++ after)).stop = stop at hstop
  have hread : (Parser.descend stop (room + 1) (room + 1) .expression).run (ts ++ []) = .ok (e, []) :=
    h stop [] (.of_kind (by simp [hstop]))
  rw [List.append_nil] at hread
  have hwhole : (Parser.whole stop (room + 1)).run ts = .ok (e, []) := by
    simp [Parser.whole, hread, hstop]
  rw [hwhole]
  rfl

end EventRules
