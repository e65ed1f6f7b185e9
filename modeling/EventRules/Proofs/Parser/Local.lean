import EventRules.Proofs.Parser.Lookahead

/-!
# The parsers look no further

Every parser is local: single tokens, chains, items, primaries and the levels, as long as the ways to the
next deeper level are (`Local.parser`). With more room for nesting, or the same, so is the parser of nested
expressions (`Local.descend`). Where a parser is asked to go on, a variable is enough.
-/

namespace EventRules

namespace Parser

variable {α : Type} {c : Change} {stop t : Token} {ts : List Token} {kind close : TokenKind} {what : Expected}
  {item item' operand operand' : Parser Expr} {level : Level}

/-- A token that is a variable. It may also follow an expression, for it belongs to none. -/
def nameToken : Token := ⟨.identifier, "a", 0⟩

/-- Whatever construct an expression stands in, it may end before a name. -/
lemma ends_nameToken : Level.Ends .conditional nameToken where
  no_paren := by decide
  no_operator _ _ hk := absurd hk (by decide)
  no_conditional _ := ⟨by decide, by decide⟩

/-- A parser that takes a name is completed by one. -/
lemma Completes.name {y : Parser α} {a : α}
    (h : ∀ rest, Level.Ends .conditional (front stop rest) → y.run (nameToken :: rest) = .ok (a, rest)) :
    Completes stop y :=
  ⟨[nameToken], a, by decide, fun rest hrest => ⟨ends_nameToken, h rest hrest⟩⟩

/-- A closing or dividing token completes a parser that ends with it. -/
lemma Completes.closing {y : Parser α} {a : α} (kind : TokenKind)
    (hkind : kind ∉ [.lparen, .operator, .identifier, .eof])
    (h : ∀ t rest, t.kind = kind → y.run (t :: rest) = .ok (a, rest)) : Completes stop y := by
  simp only [List.mem_cons, List.not_mem_nil, or_false, not_or] at hkind
  obtain ⟨hparen, hoperator, hidentifier, heof⟩ := hkind
  have hends : Level.Ends .conditional ⟨kind, "", 0⟩ := .of_kind (by simp [hparen, hoperator, hidentifier])
  have hrun (rest : List Token) : y.run (⟨kind, "", 0⟩ :: rest) = (Pure.pure a : Parser α).run rest := h _ rest rfl
  exact .cons hends heof hrun (.pure a)

/-! ## Single tokens -/

/-- A parser that expects a kind of token looks at that token alone. -/
lemma Local.expect (kind : TokenKind) (what : Expected) (hkind : kind ∉ [.lparen, .operator, .identifier, .eof]) :
    Local c 1 (expect c.stop kind what) (expect c.stop' kind what) where
  run ts := by
    by_cases hk : (front c.stop ts).kind = kind
    · obtain ⟨t, us, rfl, ht⟩ := cons_of_front_eq c.stop_eof hk (by grind)
      exact .cons (run_expect ht) (fun _ => run_expect ht) (.pure ()) fun _ => .pure ()
    · refine .fail (run_expect_missing hk) (fun us hus => ?_) nofun
      rw [run_expect_missing (hus.kind ▸ hk), hus.kind]
  completes _ := .closing kind hkind fun _ _ hk => run_expect hk

/-- The key of an entry is seen from its token. -/
lemma Local.mapKey : Local c 1 (mapKey c.stop) (mapKey c.stop') where
  run ts := by
    by_cases hk : (front c.stop ts).IsKey
    · obtain ⟨t, us, rfl, -⟩ := cons_of_front_eq c.stop_eof rfl fun heof => by
        rw [Token.IsKey, heof] at hk
        exact absurd hk (by decide)
      have hk' : (t.relocate c.move).IsKey := hk
      exact .cons (run_mapKey hk) (fun _ => run_mapKey hk') (.pure t.text) fun _ => .pure t.text
    · refine .fail (run_mapKey_missing hk) (fun us hus => ?_) fun _ hfault => ?_
      · have hk' : ¬ (front c.stop' us).IsKey := by
          rw [Token.IsKey, hus.kind]
          exact hk
        rw [run_mapKey_missing hk', hus.kind]
      · cases hfault
  completes _ := .name fun _ _ => run_mapKey (by simp [Token.IsKey, nameToken])

/-- An entry is local if its value is. -/
lemma Local.mapEntry (h : Local c 1 item item') : Local c 1 (mapEntry c.stop item) (mapEntry c.stop' item') :=
  mapKey.bind fun _ => (expect .colon _ (by decide)).mono.bind fun _ => h.mono.bind fun _ => .pure _

/-! ## Items -/

section

variable {item item' : Parser α}

/-- Items can be completed by closing them, whatever the items are. -/
lemma completes_separated (hclose : close ∉ [.lparen, .operator, .identifier, .eof, .comma]) :
    Completes stop (separated stop item close what) := by
  have hrun (t : Token) (rest : List Token) (hk : t.kind = close) :
      (separated stop item close what).run (t :: rest) = .ok ([], rest) := by
    have hcomma : (front stop (t :: rest)).kind ≠ .comma := by
      rw [front_cons, hk]
      grind
    rw [run_separated_close hcomma, StateT.run_bind, run_expect hk]
    rfl
  exact .closing close (by grind) hrun

/-- Further items are local if an item is, and by induction on the tokens so are all. -/
lemma Local.separated (close : TokenKind) (what : Expected) (hitem : Shrinks item) (hitem' : Shrinks item')
    (h : Local c 1 item item') (hclose : close ∉ [.lparen, .operator, .identifier, .eof, .comma]) :
    Local c 1 (separated c.stop item close what) (separated c.stop' item' close what) where
  run ts := by
    -- An item takes tokens, so fewer are left when the items after it are read.
    induction hn : ts.length using Nat.strong_induction_on generalizing ts with
    | _ n ih =>
      by_cases hk : (front c.stop ts).kind = .comma
      · obtain ⟨t, us, rfl, ht⟩ := cons_of_front_eq c.stop_eof hk (by decide)
        subst hn
        refine .cons (run_separated_comma c.stop_eof hitem ht) (fun _ => run_separated_comma c.stop'_eof hitem' ht)
          ?_ fun hdeepens => ?_
        · refine (h.run us).mono.bind (fun first used rest hus => ?_) fun _ _ => ?_
          · have hless : rest.length < (t :: us).length := by
              rw [hus, List.length_cons, List.length_append]
              omega
            exact (ih _ hless rest rfl).mono.bind (fun _ _ _ _ => .pure _) fun _ _ => .pure _
          · exact (completes_separated hclose).bind fun _ => .pure _
        · exact (h.completes hdeepens).bind fun _ => (completes_separated hclose).bind fun _ => .pure _
      · have hexpect : Local c 1 (Parser.expect c.stop close what >>= fun _ => Pure.pure ([] : List α))
            (Parser.expect c.stop' close what >>= fun _ => Pure.pure []) :=
          (expect close what (by grind)).bind fun _ => .pure _
        exact .of_front (hexpect.run ts) (run_separated_close hk) fun us hus => run_separated_close (hus.kind ▸ hk)
  completes _ := completes_separated hclose

/-- Items are local up to the closing token. -/
lemma Local.enclosed (close : TokenKind) (what : Expected) (hitem : Shrinks item) (hitem' : Shrinks item')
    (h : Local c 1 item item') (hclose : close ∉ [.lparen, .operator, .identifier, .eof, .comma]) :
    Local c 1 (enclosed c.stop item close what) (enclosed c.stop' item' close what) where
  run ts := by
    by_cases hk : (front c.stop ts).kind = close
    · obtain ⟨t, us, rfl, ht⟩ := cons_of_front_eq c.stop_eof hk (by grind)
      exact .cons (run_enclosed_close ht) (fun _ => run_enclosed_close ht) (.pure []) fun _ => .pure []
    · have hopen := h.bind fun first => (separated close what hitem hitem' h hclose).mono.bind
        fun more => pure (first :: more)
      exact .of_front (hopen.run ts) (run_enclosed_open hk) fun us hus => run_enclosed_open (hus.kind ▸ hk)
  completes _ := .closing close (by grind) fun _ _ hk => run_enclosed_close hk

end

/-! ## Chains -/

/-- No operator goes on with a chain where none did before, or where an expression ends. -/
lemma misses_of_follows {rest rest' : List Token} (h : c.Follows rest rest')
    (hmisses : Misses level.operator? (front c.stop rest)) :
    Misses level.operator? (front c.stop' rest') := by
  cases h with
  | inl hsame =>
    intro hk
    rw [hsame.text]
    exact hmisses (hsame.kind ▸ hk)
  | inr hends => exact hends.no_operator level (Nat.zero_le _)

/-- A chain may end before whatever comes, so nothing is needed to complete it. -/
lemma completes_chainLoop (left : Expr) : Completes stop (chainLoop stop level.operator? operand left) :=
  .stay fun _ hrest => run_chainLoop_stop (hrest.no_operator level (Nat.zero_le _))

/-- Further operands are local if an operand is, and may be none. -/
lemma Local.chainLoop (hoperand : Shrinks operand) (hoperand' : Shrinks operand') (h : Local c 1 operand operand')
    (left : Expr) :
    Local c 0 (chainLoop c.stop level.operator? operand left) (chainLoop c.stop' level.operator? operand' left) where
  run ts := by
    induction hn : ts.length using Nat.strong_induction_on generalizing ts left with
    | _ n ih =>
      cases misses_or_operator level.operator? (front c.stop ts) with
      | inl hmisses =>
        exact .stay (run_chainLoop_stop hmisses) fun us hus => run_chainLoop_stop (misses_of_follows hus hmisses)
      | inr hop =>
        obtain ⟨op, hk, ho⟩ := hop
        obtain ⟨t, us, rfl, ht⟩ := cons_of_front_eq c.stop_eof hk (by decide)
        subst hn
        have hcons : LocalAt c 1 (Parser.chainLoop c.stop level.operator? operand left)
            (Parser.chainLoop c.stop' level.operator? operand' left) (t :: us) := by
          refine .cons (run_chainLoop_op c.stop_eof hoperand ht ho)
            (fun _ => run_chainLoop_op c.stop'_eof hoperand' ht ho) ?_ fun hdeepens => ?_
          · refine (h.run us).mono.bind (fun right used rest hus => ?_) fun _ _ => completes_chainLoop _
            have hless : rest.length < (t :: us).length := by
              rw [hus, List.length_cons, List.length_append]
              omega
            exact ih _ hless _ rest rfl
          · exact (h.completes hdeepens).bind fun _ => completes_chainLoop _
        exact hcons.mono
  completes _ := completes_chainLoop left

/-- A chain is local, and takes a token as its first operand does. -/
lemma Local.chain (hoperand : Shrinks operand) (hoperand' : Shrinks operand') (h : Local c 1 operand operand') :
    Local c 1 (chain c.stop level.operator? operand) (chain c.stop' level.operator? operand') :=
  h.bind (chainLoop hoperand hoperand' h)

/-! ## Conditionals -/

/-- A token that is no `else` follows where none did before, or where an expression ends. -/
lemma isWord_else_of_follows {rest rest' : List Token} (h : c.Follows rest rest')
    (helse : (front c.stop rest).isWord "else" = false) : (front c.stop' rest').isWord "else" = false := by
  cases h with
  | inl hsame => rwa [hsame.isWord]
  | inr hends => exact (hends.no_conditional rfl).2

/-- Where no question mark comes, none comes after the tokens are continued. -/
lemma isOperator_question_of_follows {rest rest' : List Token} (h : c.Follows rest rest')
    (hquestion : (front c.stop rest).isOperator "?" = false) : (front c.stop' rest').isOperator "?" = false := by
  cases h with
  | inl hsame => rwa [hsame.isOperator]
  | inr hends => exact (hends.no_conditional rfl).1

/-- An alternative is local, and may be missing. -/
lemma Local.elsePart (h : Local c 1 item item') (condition consequence : Expr) :
    Local c 0 (elsePart c.stop item condition consequence) (elsePart c.stop' item' condition consequence) where
  run ts := by
    cases helse : (front c.stop ts).isWord "else" with
    | true =>
      obtain ⟨t, us, rfl, ht⟩ := cons_of_isWord c.stop_eof helse
      have halternative := h.mono.bind fun alternative => pure (Expr.ifElse condition consequence alternative)
      exact (LocalAt.cons (run_elsePart ht) (fun _ => run_elsePart ht)
        (halternative.run us) halternative.completes).mono
    | false =>
      exact .stay (run_elsePart_stop helse) fun us hus => run_elsePart_stop (isWord_else_of_follows hus helse)
  completes _ := .stay fun _ hrest => run_elsePart_stop (hrest.no_conditional rfl).2

/-- A consequence is local, since its word is seen from one token. -/
lemma Local.thenPart (h : Local c 1 item item') (condition : Expr) :
    Local c 1 (thenPart c.stop item condition) (thenPart c.stop' item' condition) where
  run ts := by
    cases hthen : (front c.stop ts).isWord "then" with
    | true =>
      obtain ⟨t, us, rfl, ht⟩ := cons_of_isWord c.stop_eof hthen
      have hconsequence := h.mono.bind (elsePart h condition)
      exact .cons (run_thenPart ht) (fun _ => run_thenPart ht) (hconsequence.run us) hconsequence.completes
    | false =>
      refine .fail (run_thenPart_missing hthen) (fun us hus => ?_) nofun
      rw [run_thenPart_missing (hus.isWord _ ▸ hthen), hus.kind]
  completes hdeepens := by
    have hends : Level.Ends .conditional ⟨.identifier, "then", 0⟩ := .of_then rfl
    have hconsequence := (h.completes hdeepens).bind fun a => (elsePart h condition a).completes hdeepens
    exact .cons hends (by decide) (fun _ => run_thenPart (by decide)) hconsequence

/-- A conditional in words is local if its parts are. -/
lemma Local.conditionalWords (h : Local c 1 item item') :
    Local c 1 (conditionalWords c.stop item) (conditionalWords c.stop' item') :=
  h.bind fun condition => (thenPart h condition).mono

/-- The signs of a conditional are local, and may be missing. -/
lemma Local.signsPart (h : Local c 1 item item') (condition : Expr) :
    Local c 0 (signsPart c.stop item condition) (signsPart c.stop' item' condition) where
  run ts := by
    cases hquestion : (front c.stop ts).isOperator "?" with
    | true =>
      obtain ⟨t, us, rfl, -⟩ := cons_of_front_eq c.stop_eof (Token.isOperator_iff.1 hquestion).1 (by decide)
      have hcolon : Local c 0 (Parser.expect c.stop .colon .colonOfConditional)
          (Parser.expect c.stop' .colon .colonOfConditional) :=
        (expect .colon _ (by decide)).mono
      have hbranches := h.mono.bind fun consequence => hcolon.bind fun _ => h.mono.bind fun alternative =>
        pure (Expr.ifElse condition consequence alternative)
      exact (LocalAt.cons (run_signsPart hquestion) (fun _ => run_signsPart hquestion) (hbranches.run us)
        hbranches.completes).mono
    | false =>
      exact .stay (run_signsPart_stop hquestion) fun us hus =>
        run_signsPart_stop (isOperator_question_of_follows hus hquestion)
  completes _ := .stay fun _ hrest => run_signsPart_stop (hrest.no_conditional rfl).1

/-! ## Primaries -/

/-- What keeps to the grammar leaves no more tokens than there were. -/
lemma Keeps.shrinks (h : Keeps level operand) : Shrinks operand :=
  .of_takes h

/-- An entry of a map leaves no more tokens than there were. -/
lemma Keeps.shrinks_mapEntry (hstop : stop.kind = .eof) (h : Keeps .conditional item) : Shrinks (mapEntry stop item) :=
  .of_takes (takes_mapEntry hstop h)

/-- Where no name comes first, a primary is local by the kind of that token. -/
lemma LocalAt.primary (hitem : Keeps .conditional item) (hitem' : Keeps .conditional item') (h : Local c 1 item item')
    (hname : (front c.stop ts).kind ≠ .identifier) :
    LocalAt c 1 (primary c.stop item) (primary c.stop' item') ts := by
  cases hk : (front c.stop ts).kind with
  | number =>
    cases hv : numberValue? (front c.stop ts).text with
    | some v =>
      obtain ⟨t, us, rfl, ht⟩ := cons_of_front_eq c.stop_eof hk (by decide)
      exact .cons (run_primary_number ht hv) (fun _ => run_primary_number ht hv) (.pure _) fun _ => .pure _
    | none =>
      refine .fail (run_primary_badNumber hk hv) (fun us hus => ?_) nofun
      exact run_primary_badNumber (hus.kind.trans hk) (hus.text ▸ hv)
  | string =>
    obtain ⟨t, us, rfl, ht⟩ := cons_of_front_eq c.stop_eof hk (by decide)
    exact .cons (run_primary_string ht) (fun _ => run_primary_string ht) (.pure _) fun _ => .pure _
  -- With a token taken, the parser inside has to be local on fewer tokens only, and the one that closes looks
  -- at one.
  | lparen =>
    obtain ⟨t, us, rfl, ht⟩ := cons_of_front_eq c.stop_eof hk (by decide)
    have hinner := h.mono.bind fun e => (Local.expect .rparen .closingParen (by decide)).mono.bind fun _ => .pure e
    exact .cons (run_primary_paren ht) (fun _ => run_primary_paren ht) (hinner.run us) hinner.completes
  | lbracket =>
    obtain ⟨t, us, rfl, ht⟩ := cons_of_front_eq c.stop_eof hk (by decide)
    have hitems := (Local.enclosed .rbracket .endOfList hitem.shrinks hitem'.shrinks h (by decide)).mono.bind
      fun items => .pure (Expr.list items)
    exact .cons (run_primary_bracket ht) (fun _ => run_primary_bracket ht) (hitems.run us) hitems.completes
  | lbrace =>
    obtain ⟨t, us, rfl, ht⟩ := cons_of_front_eq c.stop_eof hk (by decide)
    have hentries := (Local.enclosed .rbrace .endOfMap (hitem.shrinks_mapEntry c.stop_eof)
      (hitem'.shrinks_mapEntry c.stop'_eof) h.mapEntry (by decide)).mono.bind fun entries => .pure (Expr.map entries)
    exact .cons (run_primary_brace ht) (fun _ => run_primary_brace ht) (hentries.run us) hentries.completes
  | identifier => exact absurd hk hname
  | eof =>
    refine .fail (run_primary_eof hk) (fun us hus => ?_) nofun
    rw [run_primary_eof (hus.kind.trans hk), hus.kind]
  | operator | rparen | comma | rbracket | rbrace | colon =>
    refine .fail (run_primary_unexpected ?_) (fun us hus => run_primary_unexpected ?_) nofun
    · rw [hk]
      decide
    · rw [hus.kind, hk]
      decide

/-- Whether a word is called is told from the token after it. -/
lemma Local.call (hitem : Keeps .conditional item) (hitem' : Keeps .conditional item') (h : Local c 1 item item') :
    Local c 1 (call c.stop item) (call c.stop' item') where
  run ts := by
    by_cases hk : (front c.stop ts).kind = .identifier
    · obtain ⟨t, us, rfl, ht⟩ := cons_of_front_eq c.stop_eof hk (by decide)
      cases hif : t.isWord "if" with
      | true =>
        have hwords := (conditionalWords h).mono
        exact .cons (run_call_if hif) (fun _ => run_call_if hif) (hwords.run us) hwords.completes
      | false =>
        by_cases hparen : (front c.stop us).kind = .lparen
        · obtain ⟨paren, vs, rfl, hparen⟩ := cons_of_front_eq c.stop_eof hparen (by decide)
          have hargs := (enclosed .rparen .endOfArguments hitem.shrinks hitem'.shrinks h (by decide)).mono.bind
            fun args => pure (Expr.call t.text args)
          exact .prepend (List.cons_ne_nil t [paren]) (run_call_paren ht hif hparen)
            (fun _ => run_call_paren ht hif hparen) (hargs.run vs) hargs.completes
        · have hts : t :: us = [t] ++ us := rfl
          refine .ok hts (Nat.le_refl 1) (run_call_other_word ht hif hparen) fun rest hrest => ?_
          refine run_call_other_word (t := t.relocate c.move) ht hif ?_
          cases hrest with
          | inl hsame => exact hsame.kind ▸ hparen
          | inr hends => exact hends.no_paren
    · exact .of_front (.primary hitem hitem' h hk) (run_call_other hk) fun us hus => run_call_other (hus.kind ▸ hk)
  completes _ := .name fun _ hrest => run_call_other_word (by decide) (by decide) hrest.no_paren

/-! ## Levels -/

variable {limit limit' room room' : Nat}

/-- A variable is enough at every level. -/
lemma parser_completes (level : Level) (limit room : Nat) :
    Completes stop (level.parser stop (descend stop limit room)) := by
  have hreads : Reads stop limit room .primary .conditional [nameToken] (.variable "a") :=
    reads_variable rfl (by decide) _
  have hbegins : Expr.Begins nameToken.lexeme .primary := .of_kind _ (by decide)
  exact .name (hreads.loosen hbegins (by cases level <;> decide) (Nat.zero_le _))

/-- The parser of each level keeps to the grammar at that level. -/
lemma parser_keeps (hstop : stop.kind = .eof) (level : Level) (limit room : Nat) :
    Keeps level (level.parser stop (descend stop limit room)) := by
  have hdescend := keeps_descend hstop limit room
  cases level with
  | conditional => exact .conditional hstop hdescend
  | or => exact .disjunction hstop hdescend
  | and => exact .chain hstop (.negation hstop hdescend)
  | not => exact .negation hstop hdescend
  | comparison => exact .comparison hstop hdescend
  | additive => exact .chain hstop (.chain hstop (.prefixed hstop hdescend))
  | multiplicative => exact .chain hstop (.prefixed hstop hdescend)
  | unary => exact .prefixed hstop hdescend
  | primary => exact .call hstop (hdescend .expression)

section

variable (hdeeper : ∀ entry, Local c 1 (descend c.stop limit room entry) (descend c.stop' limit' room' entry))

include hdeeper

/-- A prefix operator is local, or else a call is. -/
lemma Local.prefixed :
    Local c 1 (prefixed c.stop (descend c.stop limit room)) (prefixed c.stop' (descend c.stop' limit' room')) where
  run ts := by
    cases hop : prefix? (front c.stop ts) with
    | some op =>
      have hk : (front c.stop ts).kind = .operator := by
        rw [prefix?] at hop
        split at hop
        case isTrue hk => exact hk
        case isFalse => cases hop
      obtain ⟨t, us, rfl, -⟩ := cons_of_front_eq c.stop_eof hk (by decide)
      have hoperand := (hdeeper .prefixed).mono.bind fun e => pure (Expr.unary op e)
      exact .cons (run_prefixed_op hop) (fun _ => run_prefixed_op hop) (hoperand.run us) hoperand.completes
    | none =>
      have hcall := call (keeps_descend c.stop_eof limit room .expression)
        (keeps_descend c.stop'_eof limit' room' .expression) (hdeeper .expression)
      refine .of_front (hcall.run ts) (run_prefixed_call hop) fun us hus => run_prefixed_call ?_
      rw [prefix?, hus.kind, hus.text]
      exact hop
  completes _ := parser_completes .unary limit' room'

/-- A negation is local, or else a comparison is. -/
lemma Local.negation (hcomparison : Local c 1 (comparison c.stop (descend c.stop limit room))
      (comparison c.stop' (descend c.stop' limit' room'))) :
    Local c 1 (negation c.stop (descend c.stop limit room)) (negation c.stop' (descend c.stop' limit' room')) where
  run ts := by
    cases hsign : (front c.stop ts).isOperator "!" with
    | true =>
      obtain ⟨t, us, rfl, -⟩ := cons_of_front_eq c.stop_eof (Token.isOperator_iff.1 hsign).1 (by decide)
      have hoperand := (hdeeper .negation).mono.bind fun e => pure (Expr.unary .not e)
      exact .cons (run_negation_not hsign) (fun _ => run_negation_not hsign) (hoperand.run us) hoperand.completes
    | false =>
      exact .of_front (hcomparison.run ts) (run_negation_comparison hsign) fun us hus =>
        run_negation_comparison (hus.isOperator _ ▸ hsign)
  completes _ := parser_completes .not limit' room'

/-- Every level is local if the next deeper level of nesting is. -/
lemma Local.parser (level : Level) :
    Local c 1 (level.parser c.stop (descend c.stop limit room))
      (level.parser c.stop' (descend c.stop' limit' room')) := by
  have hprimary : Local c 1 (Level.primary.parser c.stop (descend c.stop limit room))
      (Level.primary.parser c.stop' (descend c.stop' limit' room')) :=
    call (keeps_descend c.stop_eof limit room .expression) (keeps_descend c.stop'_eof limit' room' .expression)
      (hdeeper .expression)
  have hchain (op : BinaryOp) (hnext : Local c 1 (op.level.next.parser c.stop (descend c.stop limit room))
      (op.level.next.parser c.stop' (descend c.stop' limit' room'))) :
      Local c 1 (op.level.parser c.stop (descend c.stop limit room))
        (op.level.parser c.stop' (descend c.stop' limit' room')) := by
    rw [Level.parser_eq_chain, Level.parser_eq_chain]
    exact chain (parser_keeps c.stop_eof op.level.next limit room).shrinks
      (parser_keeps c.stop'_eof op.level.next limit' room').shrinks hnext
  refine Level.of_next (P := fun level => Local c 1 (level.parser c.stop (descend c.stop limit room))
    (level.parser c.stop' (descend c.stop' limit' room'))) (fun place _ hnext => ?_) ?_ hprimary
  · cases place with
    | conditional => exact hnext.bind (signsPart (hdeeper .expression))
    | or => exact hchain .or hnext
    | and => exact hchain .and hnext
    | not => exact negation hdeeper hnext
    | comparison => exact hchain .equal hnext
    | additive => exact hchain .add hnext
    | multiplicative => exact hchain .multiply hnext
    | unary => exact prefixed hdeeper
    | primary => exact hnext
  · cases level <;> decide

end

/-- A nested expression is read with as much room as before or more. -/
lemma Local.descend (limit limit' : Nat) (hroom : room ≤ room') (hdeepens : c.deepens → room < room') (entry : Entry) :
    Local c 1 (descend c.stop limit room entry) (descend c.stop' limit' room' entry) := by
  induction room generalizing room' entry with
  | zero =>
    have hrefused (ts : List Token) : Error.TooDeep limit (errorAt (front c.stop ts) (.tooDeep limit)) := ⟨_, _, rfl⟩
    refine ⟨fun ts => .refused rfl (hrefused ts), fun h => ?_⟩
    obtain ⟨room', rfl⟩ := Nat.exists_eq_succ_of_ne_zero (Nat.ne_of_gt (hdeepens h))
    cases entry with
    | expression => exact parser_completes .conditional limit' room'
    | negation => exact parser_completes .not limit' room'
    | prefixed => exact parser_completes .unary limit' room'
  | succ room ih =>
    obtain ⟨room', rfl⟩ := Nat.exists_eq_succ_of_ne_zero (Nat.ne_of_gt (Nat.zero_lt_of_lt hroom))
    have hdeeper := ih (Nat.le_of_succ_le_succ hroom) fun h => Nat.lt_of_succ_lt_succ (hdeepens h)
    cases entry with
    | expression => exact parser hdeeper .conditional
    | negation => exact parser hdeeper .not
    | prefixed => exact parser hdeeper .unary

end Parser

end EventRules
