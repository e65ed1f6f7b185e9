import EventRules.Decimal.Reader
import EventRules.Proofs.Expr.Spelling
import Mathlib.Data.List.Chain

/-!
# The grammar of expressions

Which tokens are which expression, by rules that do not mention a parser. A `Phrase` is what tokens
may stand for: an expression in a place of some level, or what stands between brackets. `Derives`
has one rule for each construct; every rule lists the tokens of the construct in their order, so a
phrase is derived from all of its tokens and from nothing else. Which operators may stand before an
operand at the level of prefix operators is a parameter. With those alone that have this level, no
`!` comes directly after an operator that binds tighter than a negation (`Derives.orderly`).
-/

namespace EventRules

/-- The value that the text of a number writes. -/
inductive Value.WrittenBy (text : String) : Value → Prop
  /-- A point or the letter of an exponent makes a float. -/
  | float {x : Float} : (∃ c ∈ text.toList, c ∈ ['.', 'e', 'E']) → Decimal.readFloat? text.toList = some x →
    WrittenBy text (.float x)
  | int {n : Int64} : (∀ c ∈ text.toList, c ∉ ['.', 'e', 'E']) → Decimal.readInt64? text.toList = some n →
    WrittenBy text (.int n)

namespace Token

/-- The value that a token is by itself. -/
inductive Denotes (t : Token) : Value → Prop
  | number {v : Value} : t.kind = .number → v.WrittenBy t.text → Denotes t v
  | string : t.kind = .string → Denotes t (.string t.text)
  | trueWord : t.isWord "true" → Denotes t (.bool true)
  | falseWord : t.isWord "false" → Denotes t (.bool false)
  | nullWord : t.isWord "null" → Denotes t .null

/-- The token names a variable: it is an identifier, and no word of the grammar. -/
def IsName (t : Token) : Prop :=
  t.kind = .identifier ∧ ∀ word ∈ ["true", "false", "null", "if"], t.isWord word = false

/-- The token can be the key of a map entry. -/
def IsKey (t : Token) : Prop :=
  t.kind ∈ [.string, .identifier, .number]

end Token

/-- What tokens may stand for. -/
inductive Phrase where
  /-- An expression in a place of a level. -/
  | expression (place : Level) (e : Expr)
  /-- Expressions with commas between them. -/
  | items (es : List Expr)
  /-- Further expressions, a comma before each. -/
  | moreItems (es : List Expr)
  /-- Map entries with commas between them. -/
  | entries (ps : List (String × Expr))
  /-- Further map entries, a comma before each. -/
  | moreEntries (ps : List (String × Expr))

/-- The tokens, all of them and in their order, are a phrase. At the level of prefix operators stand
those among `prefixes`. -/
inductive Derives (prefixes : UnaryOp → Prop) : Phrase → List Token → Prop
  /-- What stands in a tighter place may stand in a looser one. -/
  | loosen {place : Level} {e : Expr} {ts : List Token} :
    Derives prefixes (.expression place.next e) ts → Derives prefixes (.expression place e) ts
  | conditional {c a b : Expr} {cs as bs : List Token} {question colon : Token} :
    Derives prefixes (.expression .or c) cs → question.isOperator "?" →
    Derives prefixes (.expression .conditional a) as → colon.kind = .colon →
    Derives prefixes (.expression .conditional b) bs →
    Derives prefixes (.expression .conditional (.ifElse c a b)) (cs ++ question :: (as ++ colon :: bs))
  /-- A chain groups to the left: its last operand alone is of the next tighter level. -/
  | binary {op : BinaryOp} {left right : Expr} {ls rs : List Token} {t : Token} :
    Derives prefixes (.expression op.level left) ls → t.isOperator op.symbol →
    Derives prefixes (.expression op.level.next right) rs →
    Derives prefixes (.expression op.level (.binary op left right)) (ls ++ t :: rs)
  | negation {e : Expr} {ts : List Token} {t : Token} :
    t.isOperator "!" → Derives prefixes (.expression .not e) ts →
    Derives prefixes (.expression .not (.unary .not e)) (t :: ts)
  | prefixed {op : UnaryOp} {e : Expr} {ts : List Token} {t : Token} :
    prefixes op → t.isOperator op.symbol → Derives prefixes (.expression .unary e) ts →
    Derives prefixes (.expression .unary (.unary op e)) (t :: ts)
  | call {args : List Expr} {ts : List Token} {name opening closing : Token} :
    name.kind = .identifier → name.isWord "if" = false → opening.kind = .lparen →
    Derives prefixes (.items args) ts → closing.kind = .rparen →
    Derives prefixes (.expression .primary (.call name.text args)) (name :: opening :: (ts ++ [closing]))
  | literal {v : Value} {t : Token} :
    t.Denotes v → Derives prefixes (.expression .primary (.literal v)) [t]
  | variable {t : Token} :
    t.IsName → Derives prefixes (.expression .primary (.variable t.text)) [t]
  | parentheses {e : Expr} {ts : List Token} {opening closing : Token} :
    opening.kind = .lparen → Derives prefixes (.expression .conditional e) ts → closing.kind = .rparen →
    Derives prefixes (.expression .primary e) (opening :: (ts ++ [closing]))
  | ifThen {c a : Expr} {cs as : List Token} {word thenWord : Token} :
    word.isWord "if" → Derives prefixes (.expression .conditional c) cs → thenWord.isWord "then" →
    Derives prefixes (.expression .conditional a) as →
    Derives prefixes (.expression .primary (.ifThen c a)) (word :: (cs ++ thenWord :: as))
  | ifElse {c a b : Expr} {cs as bs : List Token} {word thenWord elseWord : Token} :
    word.isWord "if" → Derives prefixes (.expression .conditional c) cs → thenWord.isWord "then" →
    Derives prefixes (.expression .conditional a) as → elseWord.isWord "else" →
    Derives prefixes (.expression .conditional b) bs →
    Derives prefixes (.expression .primary (.ifElse c a b)) (word :: (cs ++ thenWord :: (as ++ elseWord :: bs)))
  | list {es : List Expr} {ts : List Token} {opening closing : Token} :
    opening.kind = .lbracket → Derives prefixes (.items es) ts → closing.kind = .rbracket →
    Derives prefixes (.expression .primary (.list es)) (opening :: (ts ++ [closing]))
  | map {ps : List (String × Expr)} {ts : List Token} {opening closing : Token} :
    opening.kind = .lbrace → Derives prefixes (.entries ps) ts → closing.kind = .rbrace →
    Derives prefixes (.expression .primary (.map ps)) (opening :: (ts ++ [closing]))
  | noItems : Derives prefixes (.items []) []
  | items {e : Expr} {es : List Expr} {ts us : List Token} :
    Derives prefixes (.expression .conditional e) ts → Derives prefixes (.moreItems es) us →
    Derives prefixes (.items (e :: es)) (ts ++ us)
  | noMoreItems : Derives prefixes (.moreItems []) []
  | moreItems {e : Expr} {es : List Expr} {ts us : List Token} {comma : Token} :
    comma.kind = .comma → Derives prefixes (.expression .conditional e) ts → Derives prefixes (.moreItems es) us →
    Derives prefixes (.moreItems (e :: es)) (comma :: (ts ++ us))
  | noEntries : Derives prefixes (.entries []) []
  | entries {e : Expr} {ps : List (String × Expr)} {ts us : List Token} {key colon : Token} :
    key.IsKey → colon.kind = .colon → Derives prefixes (.expression .conditional e) ts →
    Derives prefixes (.moreEntries ps) us →
    Derives prefixes (.entries ((key.text, e) :: ps)) (key :: colon :: (ts ++ us))
  | noMoreEntries : Derives prefixes (.moreEntries []) []
  | moreEntries {e : Expr} {ps : List (String × Expr)} {ts us : List Token} {comma key colon : Token} :
    comma.kind = .comma → key.IsKey → colon.kind = .colon → Derives prefixes (.expression .conditional e) ts →
    Derives prefixes (.moreEntries ps) us →
    Derives prefixes (.moreEntries ((key.text, e) :: ps)) (comma :: key :: colon :: (ts ++ us))

/-- An operator is a token of that kind with the text of the operator. -/
lemma Token.isOperator_iff {t : Token} {text : String} :
    t.isOperator text = true ↔ t.kind = .operator ∧ t.text = text := by
  simp [isOperator]

/-- A token of another kind is no operator. -/
lemma Token.isOperator_of_kind {t : Token} {text : String} (h : t.kind ≠ .operator) : t.isOperator text = false := by
  simp [isOperator, h]

/-- A word is an identifier. -/
lemma Token.kind_of_isWord {t : Token} {word : String} (h : t.isWord word = true) : t.kind = .identifier := by
  simp only [isWord, Bool.and_eq_true, beq_iff_eq] at h
  exact h.1

/-- A literal is written by no operator. -/
lemma Token.Denotes.kind {t : Token} {v : Value} (h : t.Denotes v) : t.kind ≠ .operator := by
  cases h with
  | number hk => simp [hk]
  | string hk => simp [hk]
  | trueWord hw => simp [kind_of_isWord hw]
  | falseWord hw => simp [kind_of_isWord hw]
  | nullWord hw => simp [kind_of_isWord hw]

/-- No key is an operator. -/
lemma Token.IsKey.kind {t : Token} (h : t.IsKey) : t.kind ≠ .operator := by
  intro hk
  rw [IsKey, hk] at h
  exact absurd h (by decide)

namespace Derives

/-- Before a `!` stands no operator but another `!`, `&&`, `||` or `?`. -/
def Follows (t u : Token) : Prop :=
  u.isOperator "!" → t.kind = .operator → t.text ∈ ["!", "&&", "||", "?"]

/-- No `!` comes after an operator that binds tighter than a negation, and none begins an expression
in a place that is tighter. -/
structure Orderly (phrase : Phrase) (ts : List Token) : Prop where
  chain : ts.IsChain Follows
  head : ∀ place e, phrase = .expression place e → .not < place → ∀ t ∈ ts.head?, t.isOperator "!" = false

variable {phrase : Phrase} {ts us : List Token} {t u : Token}

/-- Anything may follow a token that is no operator. -/
lemma chain_cons (ht : t.kind ≠ .operator) (hts : ts.IsChain Follows) : (t :: ts).IsChain Follows :=
  List.isChain_cons.2 ⟨fun _ _ _ hk => absurd hk ht, hts⟩

/-- Anything may follow an operator that binds no tighter than a negation. -/
lemma chain_loose (ht : t.text ∈ ["!", "&&", "||", "?"]) (hts : ts.IsChain Follows) : (t :: ts).IsChain Follows :=
  List.isChain_cons.2 ⟨fun _ _ _ _ => ht, hts⟩

/-- A token that is no `!` may follow anything. -/
lemma chain_append (hts : ts.IsChain Follows) (hu : u.isOperator "!" = false) (hus : (u :: us).IsChain Follows) :
    (ts ++ u :: us).IsChain Follows := by
  refine List.isChain_append.2 ⟨hts, hus, fun t _ v hv hsign => ?_⟩
  cases Option.some.inj hv
  exact absurd hsign (by simp [hu])

/-- A token that is no operator divides what stands before it from what stands after it. -/
lemma chain_divide (hts : ts.IsChain Follows) (hu : u.kind ≠ .operator) (hus : us.IsChain Follows) :
    (ts ++ u :: us).IsChain Follows :=
  chain_append hts (Token.isOperator_of_kind hu) (chain_cons hu hus)

/-- What begins with another token than an operator is orderly, whatever the level is. -/
lemma Orderly.cons (ht : t.kind ≠ .operator) (hts : ts.IsChain Follows) : Orderly phrase (t :: ts) where
  chain := chain_cons ht hts
  head := by
    rintro _ _ - - _ ⟨⟩
    exact Token.isOperator_of_kind ht

/-- Phrases that are no expressions may begin with anything. -/
lemma Orderly.of_chain (hts : ts.IsChain Follows) (h : ∀ place e, phrase ≠ .expression place e) : Orderly phrase ts :=
  ⟨hts, fun place e he => absurd he (h place e)⟩

/-- Operators follow each other in the items of a list as they do in each item. -/
lemma chain_items {es : List Expr} {prefixes : UnaryOp → Prop} (h : Derives prefixes (.moreItems es) us)
    (hts : ts.IsChain Follows) (hus : us.IsChain Follows) : (ts ++ us).IsChain Follows := by
  cases h with
  | noMoreItems => rwa [List.append_nil]
  | moreItems hcomma => exact chain_append hts (Token.isOperator_of_kind (by simp [hcomma])) hus

/-- Operators follow each other in the entries of a map as they do in each value. -/
lemma chain_entries {ps : List (String × Expr)} {prefixes : UnaryOp → Prop} (h : Derives prefixes (.moreEntries ps) us)
    (hts : ts.IsChain Follows) (hus : us.IsChain Follows) : (ts ++ us).IsChain Follows := by
  cases h with
  | noMoreEntries => rwa [List.append_nil]
  | moreEntries hcomma => exact chain_append hts (Token.isOperator_of_kind (by simp [hcomma])) hus

/-- Where `!` stands at its own level alone, it comes after no operator that binds tighter. -/
theorem orderly (h : Derives (fun op => op.level = .unary) phrase ts) : Orderly phrase ts := by
  induction h with
  | @loosen place e ts _ ih =>
    refine ⟨ih.chain, ?_⟩
    rintro _ _ ⟨⟩ hlt
    refine ih.head place.next e rfl ?_
    revert hlt
    cases place <;> decide
  -- The question mark is no sign of negation, and the colon is no operator, so the parts may follow freely.
  | @conditional _ _ _ _ as bs _ colon _ hquestion _ hcolon _ ihc iha ihb =>
    obtain ⟨-, htext⟩ := Token.isOperator_iff.1 hquestion
    have hafter : (as ++ colon :: bs).IsChain Follows := chain_divide iha.chain (by simp [hcolon]) ihb.chain
    refine ⟨chain_append ihc.chain (by simp [Token.isOperator, htext]) (chain_loose (by simp [htext]) hafter), ?_⟩
    rintro _ _ ⟨⟩ hlt
    exact absurd hlt (by decide)
  | @binary op left right ls rs t _ ht _ ihl ihr =>
    obtain ⟨-, htext⟩ := Token.isOperator_iff.1 ht
    have hsign : t.isOperator "!" = false := by
      simp only [Token.isOperator, htext]
      cases op <;> simp [BinaryOp.symbol]
    have hcons : (t :: rs).IsChain Follows := by
      refine List.isChain_cons.2 ⟨fun u hu husign _ => ?_, ihr.chain⟩
      -- An operand that may begin with a `!` is one of `&&` or `||`.
      by_cases hlt : .not < op.level.next
      · exact absurd husign (by simp [ihr.head _ _ rfl hlt u hu])
      · rw [htext]
        revert hlt
        cases op <;> decide
    refine ⟨chain_append ihl.chain hsign hcons, ?_⟩
    rintro _ _ ⟨⟩ hlt
    cases ls with
    | nil =>
      rintro _ ⟨⟩
      exact hsign
    | cons l ls => exact ihl.head _ _ rfl hlt
  | negation ht _ ih =>
    obtain ⟨-, htext⟩ := Token.isOperator_iff.1 ht
    refine ⟨chain_loose (by simp [htext]) ih.chain, ?_⟩
    rintro _ _ ⟨⟩ hlt
    exact absurd hlt (by decide)
  | @prefixed op _ _ t hop ht _ ih =>
    obtain ⟨-, htext⟩ := Token.isOperator_iff.1 ht
    have hsign : t.isOperator "!" = false := by
      simp only [Token.isOperator, htext]
      -- The sign of negation is none of the prefix operators here, as a negation stands at a level of its
      -- own.
      cases op with
      | not => exact absurd hop (by decide)
      | negate | «exists» => simp [UnaryOp.symbol]
    have hhead := ih.head .unary _ rfl (by decide)
    refine ⟨List.isChain_cons.2 ⟨fun u hu husign => absurd husign (by simp [hhead u hu]), ih.chain⟩, ?_⟩
    rintro _ _ - - _ ⟨⟩
    exact hsign
  | call hname _ hopening _ hclosing ih =>
    exact .cons (by simp [hname]) (chain_cons (by simp [hopening])
      (chain_divide ih.chain (by simp [hclosing]) .nil))
  | literal ht => exact .cons ht.kind .nil
  | «variable» ht => exact .cons (by simp [ht.1]) .nil
  | parentheses hopening _ hclosing ih =>
    exact .cons (by simp [hopening]) (chain_divide ih.chain (by simp [hclosing]) .nil)
  | ifThen hif _ hthen _ ihc iha =>
    exact .cons (by simp [Token.kind_of_isWord hif])
      (chain_divide ihc.chain (by simp [Token.kind_of_isWord hthen]) iha.chain)
  | ifElse hif _ hthen _ helse _ ihc iha ihb =>
    exact .cons (by simp [Token.kind_of_isWord hif])
      (chain_divide ihc.chain (by simp [Token.kind_of_isWord hthen])
        (chain_divide iha.chain (by simp [Token.kind_of_isWord helse]) ihb.chain))
  | list hopening _ hclosing ih =>
    exact .cons (by simp [hopening]) (chain_divide ih.chain (by simp [hclosing]) .nil)
  | map hopening _ hclosing ih =>
    exact .cons (by simp [hopening]) (chain_divide ih.chain (by simp [hclosing]) .nil)
  | noItems => exact .of_chain .nil nofun
  | items _ hmore ih ihmore => exact .of_chain (chain_items hmore ih.chain ihmore.chain) nofun
  | noMoreItems => exact .of_chain .nil nofun
  | moreItems hcomma _ hmore ih ihmore =>
    exact .cons (by simp [hcomma]) (chain_items hmore ih.chain ihmore.chain)
  | noEntries => exact .of_chain .nil nofun
  | entries hkey hcolon _ hmore ih ihmore =>
    exact .cons hkey.kind (chain_cons (by simp [hcolon]) (chain_entries hmore ih.chain ihmore.chain))
  | noMoreEntries => exact .of_chain .nil nofun
  | moreEntries hcomma hkey hcolon _ hmore ih ihmore =>
    exact .cons (by simp [hcomma]) (chain_cons hkey.kind
      (chain_cons (by simp [hcolon]) (chain_entries hmore ih.chain ihmore.chain)))

end Derives

end EventRules
