import EventRules.Proofs.Parser.Earliest
import EventRules.Proofs.Token.Opening

/-!
# Sources in parentheses

A source that parses can be put in parentheses, and such sources can be put together to conditionals, in words
and with signs: whatever is in the parentheses is read as it is by itself. The closing parenthesis is on a line
of its own, for the source may end with a comment. Each pair of parentheses takes one level of nesting, and the
parts of a conditional are one level deeper than the whole.
-/

namespace EventRules

namespace Level

/-- A token that goes on with no chain of a place or a tighter one, and with no conditional in signs. -/
structure Stops (place : Level) (t : Token) : Prop where
  no_operator : ∀ level, place ≤ level → Parser.Misses level.operator? t
  no_question : place = .conditional → t.isOperator "?" = false

variable {place level : Level} {t : Token}

/-- What is no operator stops the levels of operators. -/
lemma Stops.of_kind (h : t.kind ≠ .operator) : place.Stops t where
  no_operator _ _ hk := absurd hk h
  no_question _ := Token.isOperator_of_kind h

/-- A question mark stops the disjunctions. -/
lemma Stops.of_question (h : t.isOperator "?" = true) : Level.or.Stops t where
  no_operator := by
    obtain ⟨hk, htext⟩ := Token.isOperator_iff.1 h
    have hlexeme : t.lexeme = .operator "?" := Token.lexeme_eq_iff.2 ⟨hk, htext⟩
    exact (Ends.of_question hlexeme).no_operator
  no_question := nofun

/-- What stops a level stops all that are tighter. -/
lemma Stops.mono (h : place.Stops t) (hle : place ≤ level) : level.Stops t where
  no_operator other hother := h.no_operator other (Nat.le_trans hle hother)
  no_question hlevel := by
    subst hlevel
    cases place with
    | conditional => exact h.no_question rfl
    | _ => exact absurd hle (by decide)

end Level

namespace Parser

variable {stop t u : Token} {limit room room' : Nat} {ts us rest : List Token} {place : Level} {e : Expr} {err : Error}

/-- What a primary comes to passes through the levels around it, if nothing there goes on behind it. -/
lemma run_parser_eq_call (hk : t.kind ≠ .operator) (hstops : ∀ e rest,
      (call stop (descend stop limit room .expression)).run (t :: ts) = .ok (e, rest) → place.Stops (front stop rest)) :
    (place.parser stop (descend stop limit room)).run (t :: ts) =
      (call stop (descend stop limit room .expression)).run (t :: ts) := by
  generalize hresult : (call stop (descend stop limit room .expression)).run (t :: ts) = result at hstops
  have hchain (op : BinaryOp) (hstops : ∀ e rest, result = .ok (e, rest) → op.level.Stops (front stop rest))
      (h : (op.level.next.parser stop (descend stop limit room)).run (t :: ts) = result) :
      (op.level.parser stop (descend stop limit room)).run (t :: ts) = result := by
    rw [Level.parser_eq_chain]
    cases result with
    | error err =>
      rw [chain_eq, StateT.run_bind, h]
      rfl
    | ok r =>
      rw [run_chain h]
      exact run_chainRest_stop ((hstops r.1 r.2 rfl).no_operator _ (Nat.le_refl _)) _
  have hsign : (front stop (t :: ts)).isOperator "!" = false := Token.isOperator_of_kind hk
  have hprefix : prefix? (front stop (t :: ts)) = none := if_neg hk
  -- From the primaries outwards; what stops a level stops all that are tighter.
  refine Level.of_next (P := fun place => (∀ e rest, result = .ok (e, rest) → place.Stops (front stop rest)) →
    (place.parser stop (descend stop limit room)).run (t :: ts) = result) (fun place _ ih hstops => ?_)
    (show place ≤ .primary by cases place <;> decide) (fun _ => hresult) hstops
  have hnext : place ≤ place.next := by cases place <;> decide
  have h := ih fun e rest hok => (hstops e rest hok).mono hnext
  cases place with
  | conditional =>
    have h : (disjunction stop (descend stop limit room)).run (t :: ts) = result := h
    show (Parser.conditional stop _).run (t :: ts) = result
    rw [conditional_eq, StateT.run_bind, h]
    cases result with
    | error err => rfl
    | ok r => exact run_signsPart_stop ((hstops r.1 r.2 rfl).no_question rfl)
  | or => exact hchain .or hstops h
  | and => exact hchain .and hstops h
  | not => exact (run_negation_comparison hsign).trans h
  | comparison => exact hchain .equal hstops h
  | additive => exact hchain .add hstops h
  | multiplicative => exact hchain .multiply hstops h
  | unary => exact (run_prefixed_call hprefix).trans h
  | primary => exact h

/-- With room for `room` levels or more the tokens read as the expression, at whatever offsets. -/
def ReadsWithin (room : Nat) (ts : List Token) (e : Expr) : Prop :=
  ∀ (stop : Token) (move : Nat → Nat) (limit room' : Nat), stop.kind = .eof → room ≤ room' →
    Reads stop limit room' .conditional .conditional (ts.map (Token.relocate move)) e

/-- Where the tokens stand does not matter to what is read. -/
lemma ReadsWithin.relocate (h : ReadsWithin room ts e) (move : Nat → Nat) :
    ReadsWithin room (ts.map (Token.relocate move)) e := by
  intro stop move' limit room' hstop hroom
  rw [List.map_map]
  exact h stop (move' ∘ move) limit room' hstop hroom

/-- What is read does not change if all tokens are moved by the same number. -/
lemma ReadsWithin.shift (h : ReadsWithin room ts e) (k : Nat) : ReadsWithin room (ts.map (Token.shift k)) e :=
  h.relocate (k + ·)

/-- What is read with some room is read with more, in front of anything that stops it. -/
lemma ReadsWithin.reads (h : ReadsWithin room ts e) (hstop : stop.kind = .eof) (limit : Nat) (hroom : room ≤ room') :
    Reads stop limit room' .conditional .conditional ts e := by
  have hreads := h stop id limit room' hstop hroom
  rwa [show ts.map (Token.relocate id) = ts from List.map_id ts] at hreads

/-- Tokens that parse as a whole read as what they parse to. -/
lemma readsWithin_of_whole (hstop : stop.kind = .eof) (hts : ∀ t ∈ ts, t.kind ≠ .eof)
    (h : (whole stop (room + 1)).run ts = .ok (e, rest)) : ReadsWithin room ts e := by
  intro stop' move limit room' hstop' hroom
  have hlocal := Local.descend (c := ⟨stop, stop', move, False, hstop, hstop'⟩) (room + 1) limit
    (Nat.succ_le_succ hroom) nofun .expression
  cases hlocal.run ts with
  | @ok e' used mid hsplit _ hx hy =>
    by_cases hk : (front stop mid).kind = .eof
    · cases h.symm.trans (run_whole_ok hx hk)
      have hnil : rest = [] := by
        cases rest with
        | nil => rfl
        | cons t rest => exact absurd hk (hts t (by simp [hsplit]))
      subst hnil
      rw [List.append_nil] at hsplit
      subst hsplit
      exact fun rest' hrest => hy rest' (.inr hrest)
    · cases h.symm.trans (run_whole_trailing hx hk)
  | error _ _ hx => cases h.symm.trans (run_whole_error hx)
  | refused hx => cases h.symm.trans (run_whole_error hx)

/-- With room for `room` levels or more the tokens read as the expression in every place, if nothing goes on
behind them. -/
def ReadsClosed (room : Nat) (ts : List Token) (e : Expr) : Prop :=
  ∀ (stop : Token) (limit room' : Nat) (place : Level) (rest : List Token), stop.kind = .eof → room ≤ room' →
    place.Stops (front stop rest) → (place.parser stop (descend stop limit room')).run (ts ++ rest) = .ok (e, rest)

/-- What reads closed is an item of what is one level looser. -/
lemma ReadsClosed.item (h : ReadsClosed room ts e) (hstop : stop.kind = .eof) (limit : Nat) (rest : List Token)
    (hrest : (front stop rest).kind ≠ .operator) :
    (descend stop limit (room + 1) .expression).run (ts ++ rest) = .ok (e, rest) :=
  h stop limit room .conditional rest hstop (Nat.le_refl _) (.of_kind hrest)

/-- Tokens that read as an expression do so in parentheses, one level deeper. -/
lemma ReadsWithin.parens (h : ReadsWithin room ts e) (ht : t.kind = .lparen) (hu : u.kind = .rparen) :
    ReadsClosed (room + 1) (t :: (ts ++ [u])) e := by
  intro stop limit room' place rest hstop hroom hstops
  obtain ⟨room', rfl⟩ := Nat.exists_eq_succ_of_ne_zero (Nat.ne_of_gt (Nat.zero_lt_of_lt hroom))
  have hinner : (descend stop limit (room' + 1) .expression).run (ts ++ u :: rest) = .ok (e, u :: rest) :=
    h.reads hstop limit (Nat.le_of_succ_le_succ hroom) (u :: rest) (.of_kind (by simp [hu]))
  have hcall : (call stop (descend stop limit (room' + 1) .expression)).run (t :: (ts ++ [u] ++ rest)) =
      .ok (e, rest) := by
    rw [run_call_other (by simp [ht]), run_primary_paren ht, List.append_assoc, List.singleton_append]
    simp [hinner, run_expect hu]
  rw [List.cons_append, run_parser_eq_call (by simp [ht]), hcall]
  intro e' rest' hok
  cases hcall.symm.trans hok
  exact hstops

variable {cs as bs : List Token} {c a b : Expr} {p₁ q₁ p₂ q₂ p₃ q₃ ifToken thenToken elseToken question colon : Token}

/-- A word of the language in small letters is that word. -/
lemma isWord_of_lexeme {word : String} (h : t.lexeme = .word word) (hlower : Text.toLowerAscii word = word) :
    t.isWord word = true := by
  obtain ⟨hk, htext⟩ := Token.lexeme_eq_iff.1 h
  rw [Token.isWord, hk, htext, hlower, beq_self_eq_true, beq_self_eq_true, Bool.and_self]

/-- Parts in parentheses make a conditional in words, which is one level looser than they. -/
lemma run_words (hc : ReadsWithin room cs c) (ha : ReadsWithin room as a) (hb : ReadsWithin room bs b)
    (hlexemes : [ifToken, p₁, q₁, thenToken, p₂, q₂, elseToken, p₃, q₃].map Token.lexeme =
      [.word "if", .lparen, .rparen, .word "then", .lparen, .rparen, .word "else", .lparen, .rparen])
    (hstop : stop.kind = .eof) (limit : Nat) :
    (Level.conditional.parser stop (descend stop limit (room + 2))).run
      (ifToken :: p₁ :: (cs ++ q₁ :: thenToken :: p₂ :: (as ++ q₂ :: elseToken :: p₃ :: (bs ++ [q₃])))) =
      .ok (.ifElse c a b, []) := by
  simp only [List.map_cons, List.map_nil, List.cons.injEq, and_true] at hlexemes
  obtain ⟨hif, hp₁, hq₁, hthen, hp₂, hq₂, helse, hp₃, hq₃⟩ := hlexemes
  have hif := isWord_of_lexeme hif (by decide)
  have hthen := isWord_of_lexeme hthen (by decide)
  have helse := isWord_of_lexeme helse (by decide)
  have hword {t : Token} {word : String} (h : t.isWord word = true) : t.kind ≠ .operator := by
    rw [Token.kind_of_isWord h]
    decide
  have hcRun := (hc.parens (congrArg Lexeme.kind hp₁) (congrArg Lexeme.kind hq₁)).item hstop limit
    (thenToken :: p₂ :: (as ++ q₂ :: elseToken :: p₃ :: (bs ++ [q₃]))) (hword hthen)
  have haRun := (ha.parens (congrArg Lexeme.kind hp₂) (congrArg Lexeme.kind hq₂)).item hstop limit
    (elseToken :: p₃ :: (bs ++ [q₃])) (hword helse)
  have hbRun := (hb.parens (congrArg Lexeme.kind hp₃) (congrArg Lexeme.kind hq₃)).item hstop limit [] (by simp [hstop])
  simp only [List.cons_append, List.append_assoc, List.nil_append] at hcRun haRun hbRun
  have hcall : (call stop (descend stop limit (room + 2) .expression)).run
      (ifToken :: p₁ :: (cs ++ q₁ :: thenToken :: p₂ :: (as ++ q₂ :: elseToken :: p₃ :: (bs ++ [q₃])))) =
      .ok (.ifElse c a b, []) := by
    rw [run_call_if hif, conditionalWords_eq, StateT.run_bind, hcRun, ok_bind, run_thenPart hthen, StateT.run_bind,
      haRun, ok_bind, run_elsePart helse, StateT.run_bind, hbRun]
    rfl
  rw [run_parser_eq_call (hword hif), hcall]
  intro e rest hok
  cases hcall.symm.trans hok
  exact .of_kind (by simp [hstop])

/-- Parts in parentheses make a conditional in signs, which is as much looser than they. -/
lemma run_signs (hc : ReadsWithin room cs c) (ha : ReadsWithin room as a) (hb : ReadsWithin room bs b)
    (hlexemes : [p₁, q₁, question, p₂, q₂, colon, p₃, q₃].map Token.lexeme =
      [.lparen, .rparen, .operator "?", .lparen, .rparen, .colon, .lparen, .rparen])
    (hstop : stop.kind = .eof) (limit : Nat) :
    (Level.conditional.parser stop (descend stop limit (room + 2))).run
      (p₁ :: (cs ++ q₁ :: question :: p₂ :: (as ++ q₂ :: colon :: p₃ :: (bs ++ [q₃])))) = .ok (.ifElse c a b, []) := by
  simp only [List.map_cons, List.map_nil, List.cons.injEq, and_true] at hlexemes
  obtain ⟨hp₁, hq₁, hquestion, hp₂, hq₂, hcolon, hp₃, hq₃⟩ := hlexemes
  have hcolon : colon.kind = .colon := congrArg Lexeme.kind hcolon
  have hquestion : question.isOperator "?" = true := Token.isOperator_iff.2 (Token.lexeme_eq_iff.1 hquestion)
  have hcRun := (hc.parens (congrArg Lexeme.kind hp₁) (congrArg Lexeme.kind hq₁)) stop limit (room + 2) .or
    (question :: p₂ :: (as ++ q₂ :: colon :: p₃ :: (bs ++ [q₃]))) hstop (Nat.le_succ _) (.of_question hquestion)
  have haRun := (ha.parens (congrArg Lexeme.kind hp₂) (congrArg Lexeme.kind hq₂)).item hstop limit
    (colon :: p₃ :: (bs ++ [q₃])) (by simp [hcolon])
  have hbRun := (hb.parens (congrArg Lexeme.kind hp₃) (congrArg Lexeme.kind hq₃)).item hstop limit [] (by simp [hstop])
  simp only [List.cons_append, List.append_assoc, List.nil_append] at hcRun haRun hbRun
  show (Parser.conditional stop _).run _ = _
  have hcRun : (disjunction stop (descend stop limit (room + 2))).run _ = _ := hcRun
  rw [conditional_eq, StateT.run_bind, hcRun, ok_bind, run_signsPart hquestion, StateT.run_bind, haRun, ok_bind,
    StateT.run_bind, run_expect hcolon, ok_bind, StateT.run_bind, hbRun]
  rfl

/-- What fails by itself is not read up to a token behind it. -/
lemma nil_of_error {stop' : Token} {limit' k : Nat} (hstop : stop.kind = .eof) (hstop' : stop'.kind = .eof)
    (h : (descend stop limit room .expression).run ts = .error err)
    (hrun : (descend stop' limit' room .expression).run (ts.map (Token.shift k) ++ [u]) = .ok (e, rest)) :
    rest = [] := by
  -- The change goes back to the tokens by themselves, which would be read if any were left of those behind them.
  let c : Change := ⟨stop', stop, (· - k), False, hstop', hstop⟩
  have hback : c.moved (ts.map (Token.shift k)) = ts := by
    have hid : Token.relocate c.move ∘ Token.shift k = id := by
      funext t
      simp [Token.relocate, Token.shift, c]
    rw [Change.moved, List.map_map, hid, List.map_id]
  have hlocal : Local c 1 (descend stop' limit' room .expression) (descend stop limit room .expression) :=
    Local.descend limit' limit (Nat.le_refl room) (fun hdeepens => False.elim hdeepens) .expression
  cases hlocal.run (ts.map (Token.shift k) ++ [u]) with
  | @ok _ used _ hsplit _ hx hy =>
    cases hrun.symm.trans hx
    rcases List.eq_nil_or_concat rest with hnil | ⟨before, last, hlast⟩
    · exact hnil
    · subst hlast
      rw [List.concat_eq_append, ← List.append_assoc] at hsplit
      obtain ⟨hbefore, -⟩ := List.append_inj' hsplit rfl
      have hfollows : c.Follows (before.concat last) (c.moved before) := by
        cases before with
        | nil => exact .inr (.of_kind (by simp [c, Change.moved, hstop]))
        | cons => exact .inl rfl
      have hall : c.moved used ++ c.moved before = ts := by
        rw [Change.moved, Change.moved, ← List.map_append, ← hbefore]
        exact hback
      have hok := hy (c.moved before) hfollows
      rw [hall, h] at hok
      cases hok
  | error _ _ hx => cases hrun.symm.trans hx
  | refused hx => cases hrun.symm.trans hx

/-- An error for the depth of nesting comes from the expression, for what comes after it is no matter of depth.
-/
lemma descend_error_of_whole (h : (whole stop limit).run ts = .error err) {n : Nat} (htooDeep : err.TooDeep n) :
    (descend stop limit limit .expression).run ts = .error err := by
  cases hrun : (descend stop limit limit .expression).run ts with
  | error err' =>
    cases h.symm.trans (run_whole_error hrun)
    rfl
  | ok r =>
    by_cases hk : (front stop r.2).kind = .eof
    · cases h.symm.trans (run_whole_ok hrun hk)
    · cases h.symm.trans (run_whole_trailing hrun hk)
      obtain ⟨_, _, heq⟩ := htooDeep
      cases heq

/-- Tokens that are nested too deeply fail in parentheses. -/
lemma run_whole_parens_error (stop' u : Token) (k : Nat) {n : Nat} (hstop : stop.kind = .eof)
    (hstop' : stop'.kind = .eof)
    (ht : t.kind = .lparen) (h : (whole stop limit).run ts = .error err) (htooDeep : err.TooDeep n) :
    ∃ err', (whole stop' (limit + 1)).run (t :: (ts.map (Token.shift k) ++ [u])) = .error err' := by
  have herror := descend_error_of_whole h htooDeep
  have hparser : ∃ err', (Level.conditional.parser stop' (descend stop' (limit + 1) limit)).run
      (t :: (ts.map (Token.shift k) ++ [u])) = .error err' := by
    cases hcall : (call stop' (descend stop' (limit + 1) limit .expression)).run
        (t :: (ts.map (Token.shift k) ++ [u])) with
    | error err' =>
      refine ⟨err', ?_⟩
      rw [run_parser_eq_call (by simp [ht]), hcall]
      intro e rest hok
      cases hcall.symm.trans hok
    | ok r =>
      rw [run_call_other (by simp [ht]), run_primary_paren ht, StateT.run_bind] at hcall
      cases hitem : (descend stop' (limit + 1) limit .expression).run (ts.map (Token.shift k) ++ [u]) with
      | error err' =>
        rw [hitem] at hcall
        cases hcall
      | ok r' =>
        obtain ⟨e, rest⟩ := r'
        obtain rfl := nil_of_error hstop hstop' herror hitem
        rw [hitem, ok_bind, StateT.run_bind, run_expect_missing (by simp [hstop'])] at hcall
        cases hcall
  obtain ⟨err', hrun⟩ := hparser
  exact ⟨err', run_whole_error hrun⟩

end Parser

namespace Expression

variable {source : String} {limit room : Nat} {ts : List Token} {n : Nat} {x : Expression} {e : Expr} {err : Error}

/-- A source parses as its tokens before the end of the input do. -/
lemma parse_of_tokens (htokens : tokenize source = .ok (ts ++ [Token.eof n])) :
    parse source limit = (((Parser.whole (Token.eof n) limit).run ts).map Prod.fst).map (mk source) := by
  obtain ⟨before, m, hall, hbefore⟩ := tokenize_ends htokens
  obtain ⟨rfl, -⟩ := List.append_inj' hall rfl
  rw [parse, htokens, Parser.ok_bind, Expr.ofTokens_eq, TokenStream.ofTokens_append hbefore rfl]
  cases (Parser.whole (Token.eof n) limit).run ts with
  | error => rfl
  | ok => rfl

/-- A source is refused just if its tokens are. -/
lemma parse_error_iff (htokens : tokenize source = .ok (ts ++ [Token.eof n])) :
    parse source limit = .error err ↔ (Parser.whole (Token.eof n) limit).run ts = .error err := by
  rw [parse_of_tokens htokens]
  cases (Parser.whole (Token.eof n) limit).run ts with
  | error => simp [Except.map]
  | ok => simp [Except.map]

/-- A source that parses has tokens that read as its tree, with room for one level less than the limit. -/
lemma readsWithin_of_parse (h : parse source limit = .ok x) :
    ∃ room ts n, limit = room + 1 ∧ tokenize source = .ok (ts ++ [Token.eof n]) ∧
      Parser.ReadsWithin room ts x.root := by
  cases htokens : tokenize source with
  | error err =>
    rw [parse, htokens] at h
    cases h
  | ok tokens =>
    obtain ⟨ts, n, rfl, hts⟩ := tokenize_ends htokens
    rw [parse_of_tokens htokens] at h
    cases hrun : (Parser.whole (Token.eof n) limit).run ts with
    | error err =>
      rw [hrun] at h
      cases h
    | ok r =>
      rw [hrun] at h
      cases h
      cases limit with
      | zero => cases hrun
      | succ room => exact ⟨room, ts, n, rfl, rfl, Parser.readsWithin_of_whole rfl hts hrun⟩

/-- A source parses if its tokens are read in the loosest place, all of them. -/
lemma parse_of_run (htokens : tokenize source = .ok (ts ++ [Token.eof n]))
    (h : (Level.conditional.parser (Token.eof n) (Parser.descend (Token.eof n) (room + 1) room)).run ts = .ok (e, [])) :
    parse source (room + 1) = .ok ⟨source, e⟩ := by
  rw [parse_of_tokens htokens, show (Parser.whole (Token.eof n) (room + 1)).run ts = .ok (e, []) from
    Parser.run_whole_ok h rfl]
  rfl

/-- The closing parenthesis after the last part. -/
lemma tokenize_close : tokenize ")" = .ok ([⟨.rparen, ")", 0⟩] ++ [Token.eof 1]) := rfl

/-- A source in parentheses is an opening one with what is enclosed behind. -/
lemma enclosed_eq (source : String) : "(" ++ source ++ "\n)" = "(" ++ (source ++ "\n" ++ ")") := by
  rw [show "\n)" = "\n" ++ ")" from rfl]
  simp only [String.append_assoc]

/-- In parentheses a source is read as by itself, with one level more. -/
lemma parse_parens (h : parse source limit = .ok x) :
    parse ("(" ++ source ++ "\n)") (limit + 1) = .ok ⟨"(" ++ source ++ "\n)", x.root⟩ := by
  obtain ⟨room, ts, n, rfl, htokens, hreads⟩ := readsWithin_of_parse h
  obtain ⟨j, k, l, hall⟩ := tokenize_enclosed opens_paren htokens tokenize_close (by simp)
  rw [enclosed_eq]
  refine parse_of_run hall ?_
  have hclosed := (hreads.shift j).parens (t := ⟨.lparen, "(", 0⟩) (u := Token.shift k ⟨.rparen, ")", 0⟩) rfl rfl
  have hrun := hclosed (Token.eof l) (room + 2) (room + 1) .conditional [] rfl (Nat.le_refl _) (.of_kind nofun)
  rw [List.append_nil] at hrun
  exact hrun

variable {c a b before second third : String} {y z : Expression} {opening ss us : List Token}

/-- Behind each of the texts stands a source that parses, and on the next line a closing parenthesis. The sources have
tokens that read as their trees, between those of the texts. -/
lemma exists_parts (hbefore : Opens before opening) (hsecond : Opens second (⟨.rparen, ")", 0⟩ :: ss))
    (hthird : Opens third (⟨.rparen, ")", 0⟩ :: us)) (hc : parse c limit = .ok x) (ha : parse a limit = .ok y)
    (hb : parse b limit = .ok z) :
    ∃ room cs as bs j k l n, limit = room + 1 ∧ Parser.ReadsWithin room cs x.root ∧ Parser.ReadsWithin room as y.root ∧
      Parser.ReadsWithin room bs z.root ∧
      tokenize (before ++ c ++ ("\n" ++ second) ++ a ++ ("\n" ++ third) ++ b ++ ("\n" ++ ")")) =
        .ok (opening ++ (cs ++ ((⟨.rparen, ")", 0⟩ :: ss).map (Token.shift j) ++
          (as ++ ((⟨.rparen, ")", 0⟩ :: us).map (Token.shift k) ++ (bs ++ [⟨.rparen, ")", l⟩]))))) ++
          [Token.eof n]) := by
  obtain ⟨room, cs, _, rfl, hcs, hcreads⟩ := readsWithin_of_parse hc
  obtain ⟨_, as, _, heq, has, hareads⟩ := readsWithin_of_parse ha
  cases heq
  obtain ⟨_, bs, _, heq, hbs, hbreads⟩ := readsWithin_of_parse hb
  cases heq
  obtain ⟨j₃, k₃, _, hlast⟩ := tokenize_enclosed hthird hbs tokenize_close (by simp)
  obtain ⟨j₂, k₂, _, hmiddle⟩ := tokenize_enclosed hsecond has hlast (by simp)
  obtain ⟨j₁, k₁, n, hall⟩ := tokenize_enclosed hbefore hcs hmiddle (by simp)
  refine ⟨room, _, _, _, k₁, k₁ + k₂, k₁ + (k₂ + k₃), n, rfl, hcreads.shift j₁, hareads.shift (k₁ + j₂),
    hbreads.shift (k₁ + (k₂ + j₃)), ?_⟩
  simp only [String.append_assoc] at hall ⊢
  rw [hall]
  simp only [List.map_append, List.map_map, Token.shift_comp, List.append_assoc]
  rfl

/-- A conditional in words is read from its parts in parentheses, with two levels more. -/
lemma parse_words (hc : parse c limit = .ok x) (ha : parse a limit = .ok y) (hb : parse b limit = .ok z) :
    let source := "if (" ++ c ++ "\n) then (" ++ a ++ "\n) else (" ++ b ++ "\n)"
    parse source (limit + 2) = .ok ⟨source, .ifElse x.root y.root z.root⟩ := by
  obtain ⟨room, cs, as, bs, _, _, _, n, rfl, hcs, has, hbs, htokens⟩ :=
    exists_parts opens_if opens_then opens_else hc ha hb
  exact parse_of_run htokens (Parser.run_words hcs has hbs rfl rfl _)

/-- A conditional in signs is read from its parts in parentheses, with two levels more. -/
lemma parse_signs (hc : parse c limit = .ok x) (ha : parse a limit = .ok y) (hb : parse b limit = .ok z) :
    let source := "(" ++ c ++ "\n) ? (" ++ a ++ "\n) : (" ++ b ++ "\n)"
    parse source (limit + 2) = .ok ⟨source, .ifElse x.root y.root z.root⟩ := by
  obtain ⟨room, cs, as, bs, _, _, _, n, rfl, hcs, has, hbs, htokens⟩ :=
    exists_parts opens_paren opens_question opens_colon hc ha hb
  exact parse_of_run htokens (Parser.run_signs hcs has hbs rfl rfl _)

/-- What is refused for its nesting is not read in parentheses either, with one level more. -/
lemma parse_parens_error (h : parse source limit = .error err) (htooDeep : err.TooDeep limit) :
    ∃ err', parse ("(" ++ source ++ "\n)") (limit + 1) = .error err' := by
  cases htokens : tokenize source with
  | error lexError =>
    obtain ⟨_, _, _, rfl⟩ := tokenize_error_lex htokens
    rw [parse, htokens] at h
    cases h
    obtain ⟨_, _, heq⟩ := htooDeep
    cases heq
  | ok tokens =>
    obtain ⟨ts, n, rfl, -⟩ := tokenize_ends htokens
    obtain ⟨j, k, l, hall⟩ := tokenize_enclosed opens_paren htokens tokenize_close (by simp)
    obtain ⟨err', hrun⟩ := Parser.run_whole_parens_error (t := ⟨.lparen, "(", 0⟩) (Token.eof l)
      (Token.shift k ⟨.rparen, ")", 0⟩) j rfl rfl rfl ((parse_error_iff htokens).1 h) htooDeep
    refine ⟨err', ?_⟩
    rw [enclosed_eq]
    exact (parse_error_iff hall).2 hrun

/-- Sources in parentheses can be put together. What parses does so in parentheses, with one level of nesting more,
to the same tree. Three sources that parse make conditionals of their trees, in words and in signs, with two levels
more. And what is refused for its nesting is refused in parentheses with one level more, for its nesting too if it
parses at all. -/
theorem parse_parentheses (limit : Nat) :
    (∀ a x, parse a limit = .ok x → parse ("(" ++ a ++ "\n)") (limit + 1) = .ok ⟨"(" ++ a ++ "\n)", x.root⟩) ∧
    (∀ c a b x y z, parse c limit = .ok x → parse a limit = .ok y → parse b limit = .ok z →
      let words := "if (" ++ c ++ "\n) then (" ++ a ++ "\n) else (" ++ b ++ "\n)"
      let signs := "(" ++ c ++ "\n) ? (" ++ a ++ "\n) : (" ++ b ++ "\n)"
      parse words (limit + 2) = .ok ⟨words, .ifElse x.root y.root z.root⟩ ∧
        parse signs (limit + 2) = .ok ⟨signs, .ifElse x.root y.root z.root⟩) ∧
    ∀ a err, parse a limit = .error err → err.TooDeep limit →
      ∃ err', parse ("(" ++ a ++ "\n)") (limit + 1) = .error err' ∧
        ((∃ m x, parse a m = .ok x) → err'.TooDeep (limit + 1)) := by
  refine ⟨fun a x h => parse_parens h, fun c a b x y z hc ha hb => ⟨parse_words hc ha hb, parse_signs hc ha hb⟩, ?_⟩
  intro a err h htooDeep
  obtain ⟨err', h'⟩ := parse_parens_error h htooDeep
  refine ⟨err', h', ?_⟩
  rintro ⟨m, x, hx⟩
  -- A limit under which the source parses is looser, and what parses in parentheses under a looser limit fails under
  -- a tighter one for its nesting only.
  have hle : limit ≤ m := by
    by_contra hle
    rcases parse_cases fun tokens _ => agreesOn_of_le (Nat.le_of_not_le hle) tokens with ⟨heq, -⟩ | ⟨_, herr, -⟩
    · cases hx.symm.trans (heq.trans h)
    · cases hx.symm.trans herr
  rcases parse_cases fun tokens _ => agreesOn_of_le (Nat.succ_le_succ hle) tokens with ⟨heq, -⟩ | ⟨_, herr, htooDeep'⟩
  · cases h'.symm.trans (heq.trans (parse_parens hx))
  · cases h'.symm.trans herr
    exact htooDeep'

/-- The condition ends with a comment, a call is as deep as the limit allows, and a negation goes deeper. -/
theorem parse_parentheses_comment :
    let c := "a // why"
    let b := "f(b)"
    let deep := "-(b)"
    let call : Expr := .call "f" [.variable "b"]
    let source := "(" ++ c ++ "\n) ? (" ++ c ++ "\n) : (" ++ b ++ "\n)"
    parse c 2 = .ok ⟨c, .variable "a"⟩ ∧ parse b 2 = .ok ⟨b, call⟩ ∧
      parse source 4 = .ok ⟨source, .ifElse (.variable "a") (.variable "a") call⟩ ∧
      parse deep 3 = .ok ⟨deep, .unary .negate (.variable "b")⟩ ∧
      ∃ err err', parse deep 2 = .error err ∧ err.TooDeep 2 ∧
        parse ("(" ++ deep ++ "\n)") 3 = .error err' ∧ err'.TooDeep 3 := by
  intro c b deep call source
  have hcTokens : tokenize c = .ok [⟨.identifier, "a", 0⟩, .eof 8] := by decide +kernel
  have hbTokens : tokenize b = .ok [⟨.identifier, "f", 0⟩, ⟨.lparen, "(", 1⟩, ⟨.identifier, "b", 2⟩, ⟨.rparen, ")", 3⟩,
      .eof 4] := by decide +kernel
  have hdeepTokens : tokenize deep = .ok [⟨.operator, "-", 0⟩, ⟨.lparen, "(", 1⟩, ⟨.identifier, "b", 2⟩,
      ⟨.rparen, ")", 3⟩, .eof 4] := by decide +kernel
  have hc : parse c 2 = .ok ⟨c, .variable "a"⟩ := by
    rw [parse, hcTokens]
    rfl
  have hb : parse b 2 = .ok ⟨b, call⟩ := by
    rw [parse, hbTokens]
    rfl
  have hthree : parse deep 3 = .ok ⟨deep, .unary .negate (.variable "b")⟩ := by
    rw [parse, hdeepTokens]
    rfl
  -- The negation takes a level, and so does the parenthesis behind it.
  have htwo : parse deep 2 = .error (.parse "b" 2 (.tooDeep 2)) := by
    rw [parse, hdeepTokens]
    rfl
  have htooDeep : Error.TooDeep 2 (.parse "b" 2 (.tooDeep 2)) := ⟨_, _, rfl⟩
  obtain ⟨-, hconditionals, hrefused⟩ := parse_parentheses 2
  obtain ⟨-, hsigns⟩ := hconditionals c c b _ _ _ hc hc hb
  obtain ⟨err', herr', hdeeper⟩ := hrefused deep _ htwo htooDeep
  exact ⟨hc, hb, hsigns, hthree, _, err', htwo, htooDeep, herr', hdeeper ⟨3, _, hthree⟩⟩

end Expression

end EventRules
