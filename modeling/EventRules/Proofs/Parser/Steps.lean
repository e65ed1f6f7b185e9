import EventRules.Proofs.Parser.RoundTrip
import EventRules.Proofs.Parser.Soundness

/-!
# Steps of the parser

What a parser does on the token at the front, as equations between runs: it takes the token and goes on as
another parser, or it leaves the token and is done. Further operands of a chain and further items are read
with fuel. The fuel is the number of tokens that are left, so that it never runs out, and
`Parser.chainLoop` and `Parser.separated` go on without it.
-/

namespace EventRules.Parser

variable {α : Type} {stop t : Token} {ts rest : List Token} {op? : String → Option BinaryOp} {op : BinaryOp}
  {operand : Parser Expr} {left : Expr} {item : Parser α} {close : TokenKind} {what : Expected} {level : Level}

/-- What the parser leaves is no more than there was. -/
def Shrinks (x : Parser α) : Prop :=
  ∀ ts a rest, x.run ts = .ok (a, rest) → rest.length ≤ ts.length

/-- A parser that takes tokens off the front leaves no more than there were. -/
lemma Shrinks.of_takes {x : Parser α} {R : List Token → α → Prop} (h : ∀ ts, Takes x ts R) : Shrinks x := by
  intro ts a rest hrun
  obtain ⟨used, rfl, -⟩ := h ts a rest hrun
  rw [List.length_append]
  exact Nat.le_add_left _ _

/-! ## Operands -/

/-- At every token stands an operator that goes on with a chain, or none. -/
lemma misses_or_operator (op? : String → Option BinaryOp) (t : Token) :
    Misses op? t ∨ ∃ op, t.kind = .operator ∧ op? t.text = some op := by
  cases hop : op? t.text with
  | none => exact .inl fun _ => hop
  | some op =>
    by_cases hk : t.kind = .operator
    · exact .inr ⟨op, hk, rfl⟩
    · exact .inl fun hk' => absurd hk' hk

/-- An operator of the chain is taken with an operand behind it, which costs one of the fuel. -/
lemma run_chainRest_step (hk : t.kind = .operator) (ho : op? t.text = some op) (fuel : Nat) :
    (chainRest stop op? operand (fuel + 1) left).run (t :: ts) =
      (operand >>= fun right => chainRest stop op? operand fuel (.binary op left right)).run ts := by
  simp [chainRest, run_operator?_some hk ho]

/-- With fuel for all tokens there is fuel enough. -/
lemma run_chainRest_fuel (hstop : stop.kind = .eof) (hoperand : Shrinks operand) {fuel fuel' : Nat}
    (h : ts.length ≤ fuel) (h' : ts.length ≤ fuel') :
    (chainRest stop op? operand fuel left).run ts = (chainRest stop op? operand fuel' left).run ts := by
  induction fuel generalizing fuel' ts left with
  | zero =>
    obtain rfl : ts = [] := List.eq_nil_of_length_eq_zero (Nat.le_zero.1 h)
    have hmisses : Misses op? (front stop []) := fun hk => absurd (hk.symm.trans hstop) (by decide)
    rw [run_chainRest_stop hmisses, run_chainRest_stop hmisses]
  | succ fuel ih =>
    cases misses_or_operator op? (front stop ts) with
    | inl hmisses => rw [run_chainRest_stop hmisses, run_chainRest_stop hmisses]
    | inr hoperator =>
      obtain ⟨op, hk, ho⟩ := hoperator
      obtain ⟨t, us, rfl, ht⟩ := cons_of_front_eq hstop hk (by decide)
      -- An operator that is taken leaves fewer tokens, so that the fuel is enough for the rest on both
      -- sides.
      cases fuel' with
      | zero => exact absurd h' (Nat.not_succ_le_zero _)
      | succ fuel' =>
        rw [run_chainRest_step ht ho, run_chainRest_step ht ho, StateT.run_bind, StateT.run_bind]
        cases hrun : operand.run us with
        | error err => rfl
        | ok r =>
          have hlength := hoperand us r.1 r.2 hrun
          exact ih (Nat.le_trans hlength (Nat.le_of_succ_le_succ h))
            (Nat.le_trans hlength (Nat.le_of_succ_le_succ h'))

/-- The rest of a chain after its first operands. -/
def chainLoop (stop : Token) (op? : String → Option BinaryOp) (operand : Parser Expr) (left : Expr) : Parser Expr := do
  chainRest stop op? operand (← get).length left

/-- A chain is its first operand with the loop behind it. -/
lemma chain_eq (stop : Token) (op? : String → Option BinaryOp) (operand : Parser Expr) :
    chain stop op? operand = operand >>= chainLoop stop op? operand := rfl

/-- The loop ends before a token that is no operator of the chain. -/
lemma run_chainLoop_stop (h : Misses op? (front stop ts)) :
    (chainLoop stop op? operand left).run ts = .ok (left, ts) :=
  run_chainRest_stop h ts.length

/-- The loop takes an operator with an operand, and goes on with both in one expression. -/
lemma run_chainLoop_op (hstop : stop.kind = .eof) (hoperand : Shrinks operand) (hk : t.kind = .operator)
    (ho : op? t.text = some op) :
    (chainLoop stop op? operand left).run (t :: ts) =
      (operand >>= fun right => chainLoop stop op? operand (.binary op left right)).run ts := by
  have hloop : (chainLoop stop op? operand left).run (t :: ts) =
      (operand >>= fun right => chainRest stop op? operand ts.length (.binary op left right)).run ts :=
    run_chainRest_step hk ho ts.length
  rw [hloop, StateT.run_bind, StateT.run_bind]
  cases hrun : operand.run ts with
  | error err => rfl
  | ok r => exact run_chainRest_fuel hstop hoperand (hoperand ts r.1 r.2 hrun) (Nat.le_refl _)

/-! ## Items -/

/-- Further items after commas, up to the closing token: what expressions and map entries have in common. -/
def separatedRest (stop : Token) (item : Parser α) (close : TokenKind) (what : Expected) :
    (fuel : Nat) → Parser (List α)
  | 0 => missing stop what
  | fuel + 1 => do
    if (← current stop).kind = .comma then
      discard (advance stop)
      let next ← item
      return next :: (← separatedRest stop item close what fuel)
    else
      expect stop close what
      return []

/-- The rest of a list in delimiters is a rest with separators. -/
lemma delimitedRest_eq (stop : Token) (item : Parser Expr) (close : TokenKind) (what : Expected) (fuel : Nat) :
    delimitedRest stop item close what fuel = separatedRest stop item close what fuel := by
  induction fuel with
  | zero => rfl
  | succ fuel ih => rw [delimitedRest, separatedRest, ih]

/-- The rest of a map is a rest with separators, too, with entries for items. -/
lemma mapRest_eq (stop : Token) (item : Parser Expr) (fuel : Nat) :
    mapRest stop item fuel = separatedRest stop (mapEntry stop item) .rbrace .endOfMap fuel := by
  induction fuel with
  | zero => rfl
  | succ fuel ih => rw [mapRest, separatedRest, ih]

/-- Behind a comma comes another item. -/
lemma run_separatedRest_comma (hk : t.kind = .comma) (fuel : Nat) :
    (separatedRest stop item close what (fuel + 1)).run (t :: ts) =
      (item >>= fun next => separatedRest stop item close what fuel >>= fun more => pure (next :: more)).run ts := by
  simp [separatedRest, hk]

/-- Without a comma the token that closes is expected. -/
lemma run_separatedRest_close (hk : (front stop ts).kind ≠ .comma) (fuel : Nat) :
    (separatedRest stop item close what (fuel + 1)).run ts =
      (expect stop close what >>= fun _ => pure []).run ts := by
  simp [separatedRest, hk]

/-- With fuel for more than all tokens there is fuel enough. -/
lemma run_separatedRest_fuel (hstop : stop.kind = .eof) (hitem : Shrinks item) {fuel fuel' : Nat}
    (h : ts.length < fuel) (h' : ts.length < fuel') :
    (separatedRest stop item close what fuel).run ts = (separatedRest stop item close what fuel').run ts := by
  induction fuel generalizing fuel' ts with
  | zero => exact absurd h (Nat.not_lt_zero _)
  | succ fuel ih =>
    obtain ⟨fuel', rfl⟩ := Nat.exists_eq_succ_of_ne_zero (Nat.ne_of_gt (Nat.zero_lt_of_lt h'))
    by_cases hk : (front stop ts).kind = .comma
    · obtain ⟨t, us, rfl, ht⟩ := cons_of_front_eq hstop hk (by decide)
      rw [run_separatedRest_comma ht, run_separatedRest_comma ht, StateT.run_bind, StateT.run_bind]
      cases hrun : item.run us with
      | error err => rfl
      | ok r =>
        have hlength := hitem us r.1 r.2 hrun
        have hmore := ih (Nat.lt_of_le_of_lt hlength (Nat.lt_of_succ_lt_succ h))
          (Nat.lt_of_le_of_lt hlength (Nat.lt_of_succ_lt_succ h'))
        simp only [ok_bind, StateT.run_bind, hmore]
    · rw [run_separatedRest_close hk, run_separatedRest_close hk]

/-- Further items after commas, up to the closing token, without fuel. -/
def separated (stop : Token) (item : Parser α) (close : TokenKind) (what : Expected) : Parser (List α) := do
  separatedRest stop item close what ((← get).length + 1)

/-- Behind a comma comes another item, with as much fuel as there are tokens again. -/
lemma run_separated_comma (hstop : stop.kind = .eof) (hitem : Shrinks item) (hk : t.kind = .comma) :
    (separated stop item close what).run (t :: ts) =
      (item >>= fun next => separated stop item close what >>= fun more => pure (next :: more)).run ts := by
  have hloop : (separated stop item close what).run (t :: ts) =
      (item >>= fun next => separatedRest stop item close what (ts.length + 1) >>= fun more =>
        pure (next :: more)).run ts :=
    run_separatedRest_comma hk (ts.length + 1)
  rw [hloop, StateT.run_bind, StateT.run_bind]
  cases hrun : item.run ts with
  | error err => rfl
  | ok r =>
    have hmore : (separatedRest stop item close what (ts.length + 1)).run r.2 =
        (separated stop item close what).run r.2 :=
      run_separatedRest_fuel hstop hitem (Nat.lt_succ_of_le (hitem ts r.1 r.2 hrun)) (Nat.lt_succ_self _)
    simp only [ok_bind, StateT.run_bind, hmore]

/-- Without a comma there are no more items. -/
lemma run_separated_close (hk : (front stop ts).kind ≠ .comma) :
    (separated stop item close what).run ts = (expect stop close what >>= fun _ => pure []).run ts :=
  run_separatedRest_close hk ts.length

/-- Items with commas between them, up to the closing token. -/
def enclosed (stop : Token) (item : Parser α) (close : TokenKind) (what : Expected) : Parser (List α) := do
  if (← current stop).kind = close then
    discard (advance stop)
    return []
  else
    let first ← item
    return first :: (← separated stop item close what)

/-- A list in delimiters is enclosed. -/
lemma delimited_eq (stop : Token) (item : Parser Expr) (close : TokenKind) (what : Expected) :
    delimited stop item close what = enclosed stop item close what := by
  simp only [delimited, delimitedRest_eq]
  rfl

/-- A map is enclosed, with entries for items. -/
lemma mapEntries_eq (stop : Token) (item : Parser Expr) :
    mapEntries stop item = enclosed stop (mapEntry stop item) .rbrace .endOfMap := by
  simp only [mapEntries, mapRest_eq]
  rfl

/-- What is closed at once has no items. -/
lemma run_enclosed_close (hk : t.kind = close) : (enclosed stop item close what).run (t :: ts) = .ok ([], ts) := by
  simp [enclosed, hk]

/-- What is not closed at once has a first item. -/
lemma run_enclosed_open (hk : (front stop ts).kind ≠ close) :
    (enclosed stop item close what).run ts =
      (item >>= fun first => separated stop item close what >>= fun more => pure (first :: more)).run ts := by
  simp [enclosed, hk]

/-! ## Single tokens -/

/-- The error at a token. -/
def errorAt (t : Token) (fault : SyntaxFault) : Error :=
  .parse t.text t.offset fault

/-- A token of another kind is not what is expected. -/
lemma run_expect_missing {kind : TokenKind} (h : (front stop ts).kind ≠ kind) :
    (expect stop kind what).run ts =
      .error (errorAt (front stop ts) (.missing what ((front stop ts).kind = .eof))) := by
  simp only [expect, StateT.run_bind, run_current, ok_bind, if_neg h]
  rfl

/-- A token that may be a key is read as its text. -/
lemma run_mapKey (h : t.IsKey) : (mapKey stop).run (t :: ts) = .ok (t.text, ts) := by
  simp only [Token.IsKey, List.mem_cons, List.not_mem_nil, or_false] at h
  rcases h with hk | hk | hk
  · simp [mapKey, hk]
  · simp [mapKey, hk]
  · simp [mapKey, hk]

/-- A token that may be no key is an error where a key is expected. -/
lemma run_mapKey_missing (h : ¬ (front stop ts).IsKey) :
    (mapKey stop).run ts = .error (errorAt (front stop ts) (.missing .mapKey ((front stop ts).kind = .eof))) := by
  simp only [Token.IsKey, List.mem_cons, List.not_mem_nil, or_false, not_or] at h
  simp only [mapKey, StateT.run_bind, run_current, ok_bind]
  split
  case h_1 hk => exact absurd hk h.1
  case h_2 hk => exact absurd hk h.2.1
  case h_3 hk => exact absurd hk h.2.2
  case h_4 => rfl

/-! ## Conditionals -/

/-- A conditional in words after its consequence. -/
def elsePart (stop : Token) (item : Parser Expr) (condition consequence : Expr) : Parser Expr := do
  if (← current stop).isWord "else" then
    discard (advance stop)
    return .ifElse condition consequence (← item)
  else return .ifThen condition consequence

/-- A conditional in words after its condition. -/
def thenPart (stop : Token) (item : Parser Expr) (condition : Expr) : Parser Expr := do
  if !(← current stop).isWord "then" then missing stop .thenWord
  else
    discard (advance stop)
    let consequence ← item
    elsePart stop item condition consequence

/-- A conditional with its two signs after its condition, or only the condition. -/
def signsPart (stop : Token) (item : Parser Expr) (condition : Expr) : Parser Expr := do
  if (← current stop).isOperator "?" then
    discard (advance stop)
    let consequence ← item
    expect stop .colon .colonOfConditional
    return .ifElse condition consequence (← item)
  else return condition

/-- A conditional in words is its condition with the rest behind it. -/
lemma conditionalWords_eq (stop : Token) (item : Parser Expr) :
    conditionalWords stop item = item >>= thenPart stop item := rfl

/-- A conditional in signs is its condition with the rest behind it, if there is one. -/
lemma conditional_eq (stop : Token) (deeper : Entry → Parser Expr) :
    conditional stop deeper = disjunction stop deeper >>= signsPart stop (deeper .expression) := rfl

section

variable {item : Parser Expr} {condition consequence : Expr}

/-- The word `else` takes the alternative with it. -/
lemma run_elsePart (h : t.isWord "else" = true) :
    (elsePart stop item condition consequence).run (t :: ts) =
      (item >>= fun alternative => pure (.ifElse condition consequence alternative)).run ts := by
  simp [elsePart, h]

/-- Without the word `else` a conditional has no alternative. -/
lemma run_elsePart_stop (h : (front stop ts).isWord "else" = false) :
    (elsePart stop item condition consequence).run ts = .ok (.ifThen condition consequence, ts) := by
  simp [elsePart, h]

/-- The word `then` takes the consequence with it. -/
lemma run_thenPart (h : t.isWord "then" = true) :
    (thenPart stop item condition).run (t :: ts) = (item >>= elsePart stop item condition).run ts := by
  simp [thenPart, h]

/-- A conditional in words has to have the word `then`. -/
lemma run_thenPart_missing (h : (front stop ts).isWord "then" = false) :
    (thenPart stop item condition).run ts =
      .error (errorAt (front stop ts) (.missing .thenWord ((front stop ts).kind = .eof))) := by
  simp only [thenPart, StateT.run_bind, run_current, ok_bind, h]
  rfl

/-- The question mark takes both branches with it, and the colon between them. -/
lemma run_signsPart (h : t.isOperator "?" = true) :
    (signsPart stop item condition).run (t :: ts) =
      (item >>= fun consequence => expect stop .colon .colonOfConditional >>= fun _ => item >>= fun alternative =>
        pure (.ifElse condition consequence alternative)).run ts := by
  simp [signsPart, h]

/-- Without a question mark the condition is all there is. -/
lemma run_signsPart_stop (h : (front stop ts).isOperator "?" = false) :
    (signsPart stop item condition).run ts = .ok (condition, ts) := by
  simp [signsPart, h]

end

/-! ## Primaries and prefix operators -/

section

variable {item : Parser Expr} {deeper : Entry → Parser Expr} {uop : UnaryOp} {v : Value}

/-- What a word other than `if` stands for. -/
def wordExpr (text : String) : Expr :=
  match Text.toLowerAscii text with
  | "true" => .literal (.bool true)
  | "false" => .literal (.bool false)
  | "null" => .literal .null
  | _ => .variable text

/-- The word `if` begins a conditional in any letters. -/
lemma run_word_if (h : Text.toLowerAscii t.text = "if") :
    (word stop item).run (t :: ts) = (conditionalWords stop item).run ts := by
  simp [word, h]

/-- Every other word is a literal or a name. -/
lemma run_word_other (h : Text.toLowerAscii t.text ≠ "if") :
    (word stop item).run (t :: ts) = .ok (wordExpr t.text, ts) := by
  simp only [word, wordExpr, StateT.run_bind, run_advance, ok_bind, front_cons, List.tail_cons]
  split
  case h_4 hif => exact absurd hif h
  all_goals simp_all

/-- A number that can be read is a literal. -/
lemma run_primary_number (hk : t.kind = .number) (hv : numberValue? t.text = some v) :
    (primary stop item).run (t :: ts) = .ok (.literal v, ts) := by
  simp [primary, hk, hv]

/-- A number that cannot be read is an error at its token. -/
lemma run_primary_badNumber (hk : (front stop ts).kind = .number) (hv : numberValue? (front stop ts).text = none) :
    (primary stop item).run ts = .error (errorAt (front stop ts) .badNumber) := by
  simp only [primary, StateT.run_bind, run_current, ok_bind, hk, run_discard, hv]
  rfl

/-- A string is a literal. -/
lemma run_primary_string (hk : t.kind = .string) :
    (primary stop item).run (t :: ts) = .ok (.literal (.string t.text), ts) := by
  simp [primary, hk]

/-- Parentheses have an expression inside. -/
lemma run_primary_paren (hk : t.kind = .lparen) :
    (primary stop item).run (t :: ts) =
      (item >>= fun e => expect stop .rparen .closingParen >>= fun _ => pure e).run ts := by
  simp [primary, hk]

/-- A bracket begins a list. -/
lemma run_primary_bracket (hk : t.kind = .lbracket) :
    (primary stop item).run (t :: ts) =
      (enclosed stop item .rbracket .endOfList >>= fun items => pure (.list items)).run ts := by
  simp [primary, hk, delimited_eq]

/-- A brace begins a map. -/
lemma run_primary_brace (hk : t.kind = .lbrace) :
    (primary stop item).run (t :: ts) =
      (enclosed stop (mapEntry stop item) .rbrace .endOfMap >>= fun entries => pure (.map entries)).run ts := by
  simp [primary, hk, mapEntries_eq]

/-- At the end of the input an expression is missing. -/
lemma run_primary_eof (hk : (front stop ts).kind = .eof) :
    (primary stop item).run ts =
      .error (errorAt (front stop ts) (.missing .expression ((front stop ts).kind = .eof))) := by
  simp only [primary, StateT.run_bind, run_current, ok_bind]
  split
  case h_7 => rfl
  all_goals simp_all

/-- A token of none of these kinds begins no expression. -/
lemma run_primary_unexpected (hk : (front stop ts).kind ∈ [.operator, .rparen, .comma, .rbracket, .rbrace, .colon]) :
    (primary stop item).run ts = .error (errorAt (front stop ts) .unexpectedToken) := by
  simp only [primary, StateT.run_bind, run_current, ok_bind]
  split
  case h_8 => rfl
  all_goals
    rename_i h
    rw [h] at hk
    exact absurd hk (by decide)

/-- What begins with no name is no call. -/
lemma run_call_other (hk : (front stop ts).kind ≠ .identifier) :
    (call stop item).run ts = (primary stop item).run ts := by
  cases ts with
  | nil => simp [call]
  | cons t us => exact run_call_primary fun h => absurd h hk

/-- The word `if` is no name of a function, even before a parenthesis. -/
lemma run_call_if (h : t.isWord "if" = true) :
    (call stop item).run (t :: ts) = (conditionalWords stop item).run ts := by
  have hk := Token.kind_of_isWord h
  have htext : Text.toLowerAscii t.text = "if" := by simpa [Token.isWord, hk] using h
  rw [run_call_primary fun _ _ => h, ← run_word_if htext]
  simp [primary, hk]

/-- A word other than `if` with no parenthesis after it stands for itself. -/
lemma run_call_other_word (hk : t.kind = .identifier) (hif : t.isWord "if" = false)
    (hparen : (front stop ts).kind ≠ .lparen) : (call stop item).run (t :: ts) = .ok (wordExpr t.text, ts) := by
  rw [run_call_word hk hparen]
  exact run_word_other (by simpa [Token.isWord, hk] using hif)

/-- Any other word before a parenthesis is the name of a function. -/
lemma run_call_paren {paren : Token} (hk : t.kind = .identifier) (hif : t.isWord "if" = false)
    (hparen : paren.kind = .lparen) :
    (call stop item).run (t :: paren :: ts) =
      (enclosed stop item .rparen .endOfArguments >>= fun args => pure (.call t.text args)).run ts := by
  simp [call, hk, hif, hparen, delimited_eq]

/-- The prefix operator that a token is. -/
def prefix? (t : Token) : Option UnaryOp :=
  if t.kind = .operator then prefixOp? t.text else none

/-- A prefix operator is taken with what it is applied to. -/
lemma run_prefixed_op (h : prefix? t = some uop) :
    (prefixed stop deeper).run (t :: ts) = (deeper .prefixed >>= fun e => pure (.unary uop e)).run ts := by
  rw [prefix?] at h
  simp [prefixed, h]

/-- Without a prefix operator a call is read. -/
lemma run_prefixed_call (h : prefix? (front stop ts) = none) :
    (prefixed stop deeper).run ts = (call stop (deeper .expression)).run ts := by
  rw [prefix?] at h
  simp [prefixed, h]

/-- The sign of negation is taken with what it negates. -/
lemma run_negation_not (h : t.isOperator "!" = true) :
    (negation stop deeper).run (t :: ts) = (deeper .negation >>= fun e => pure (.unary .not e)).run ts := by
  simp [negation, h]

/-- Without a sign of negation a comparison is read. -/
lemma run_negation_comparison (h : (front stop ts).isOperator "!" = false) :
    (negation stop deeper).run ts = (comparison stop deeper).run ts := by
  simp [negation, h]

end

end EventRules.Parser
