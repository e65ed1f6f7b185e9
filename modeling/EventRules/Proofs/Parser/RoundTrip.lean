import EventRules.Proofs.Decimal.Integer
import EventRules.Proofs.Parser.Items

/-!
# Reading spellings back

An expression parses from its own spelling. `Parser.ReadsBack` says that the parser of every place
reads the spelling of an expression in that place; it is proved by induction on the expression. Each
kind of node is read at its own level first; from there the looser levels pass it through, and in a
tighter place the parentheses lead back to the loosest level, one level of nesting deeper. Chains of
binary operators need more than that, for their left operand is never read by itself: `Parser.Leads`
says that the parser of a chain comes to the end of the left operand with the rest of the chain
still to go.
-/

namespace EventRules

namespace Parser

variable {stop t u : Token} {limit room fuel : Nat} {ts rest : List Token} {place : Level} {e : Expr}
  {item : Parser Expr} {close : TokenKind} {what : Expected}

/-- The parser of the expression's own level reads back its spelling without parentheses. -/
def ReadsItself (stop : Token) (limit : Nat) (e : Expr) : Prop :=
  ∀ (room : Nat) (ts : List Token), ts.map Token.lexeme = e.spelling → ts.length ≤ room →
    Reads stop limit room e.level e.level ts e

/-- Tokens that spell something between two lexemes are the tokens of what is between and one at
each end. -/
lemma lexemes_between {l m : Lexeme} {ls : List Lexeme} (h : ts.map Token.lexeme = l :: (ls ++ [m])) :
    ∃ t mid u, ts = t :: (mid ++ [u]) ∧ t.lexeme = l ∧ mid.map Token.lexeme = ls ∧ u.lexeme = m := by
  obtain ⟨t, tail, rfl, ht, htail⟩ := List.map_eq_cons_iff.1 h
  obtain ⟨mid, last, rfl, hmid, hlast⟩ := List.map_eq_append_iff.1 htail
  obtain ⟨u, rfl, hu⟩ := List.map_eq_singleton_iff.1 hlast
  exact ⟨t, mid, u, rfl, ht, hmid, hu⟩

/-- A token that starts no call starts a primary. -/
lemma run_call_primary
    (h : t.kind = .identifier → (front stop ts).kind = .lparen → t.isWord "if" = true) :
    (call stop item).run (t :: ts) = (primary stop item).run (t :: ts) := by
  cases ts with
  | nil => simp [call]
  | cons u ts =>
    have hc : ¬ (t.kind = .identifier ∧ u.kind = .lparen ∧ t.isWord "if" = false) := by
      rintro ⟨hk, hu, hw⟩
      rw [h hk hu] at hw
      cases hw
    simp [call, hc]

/-- Parentheses around what reads by itself read in a place of a primary. -/
lemma reads_parens (ht : t.kind = .lparen) (hu : u.kind = .rparen)
    (h : Reads stop limit room .conditional .conditional ts e) (follow : Level) :
    Reads stop limit (room + 1) .primary follow (t :: (ts ++ [u])) e := by
  intro rest _
  have he : (descend stop limit (room + 1) .expression).run (ts ++ u :: rest) = .ok (e, u :: rest) :=
    h (u :: rest) (.of_kind (by simp [hu]))
  simp only [Level.parser, List.cons_append, List.append_assoc, List.nil_append]
  rw [run_call_primary (by simp [ht])]
  simp [primary, ht, he, run_expect hu]

/-- An expression that reads at its own level reads in every place. -/
lemma ReadsItself.readsBack (hw : e.Writable) (h : ReadsItself stop limit e) :
    ReadsBack stop limit e := by
  have loose : ∀ room place ts, place ≤ e.level → ts.map Token.lexeme = e.spelling →
      ts.length ≤ room → Reads stop limit room place place ts e := by
    intro room place ts hle hts hroom
    obtain ⟨l, ls, hl, hb⟩ := Expr.spelling_begins hw
    have hown := h room ts hts hroom
    obtain ⟨t, ts, rfl, rfl, -⟩ := List.map_eq_cons_iff.1 (hts.trans hl)
    exact (hown.follow_mono hle).loosen hb hle (Nat.le_refl _)
  intro room place ts hts hroom
  rcases Nat.lt_or_ge e.level.rank place.rank with hlt | hge
  · rw [Expr.spellingAt_of_lt hlt] at hts
    obtain ⟨t, mid, u, rfl, ht, hmid, hu⟩ := lexemes_between hts
    have hb : Expr.Begins t.lexeme .primary := ht ▸ .of_kind _ (by decide)
    -- The parentheses pay for the level of nesting inside them: there are two tokens fewer.
    cases room with
    | zero => simp at hroom
    | succ room =>
      have hin := loose room .conditional mid (Nat.zero_le _) hmid (by simp at hroom; omega)
      have hparens := reads_parens (congrArg Lexeme.kind ht) (congrArg Lexeme.kind hu) hin place
      exact hparens.loosen hb (by cases place <;> decide) (Nat.le_refl _)
  · rw [Expr.spellingAt_of_le hge] at hts
    exact loose room place ts hge hts hroom

/-- A word without a parenthesis after it is read as a word. -/
lemma run_call_word (ht : t.kind = .identifier) (hr : (front stop rest).kind ≠ .lparen) :
    (call stop item).run (t :: rest) = (word stop item).run (t :: rest) := by
  rw [run_call_primary fun _ hp => absurd hp hr]
  simp [primary, ht]

/-- A word that is no word of the grammar is a variable. -/
lemma run_word_variable (h : Text.toLowerAscii t.text ∉ ["true", "false", "null", "if"]) :
    (word stop item).run (t :: rest) = .ok (.variable t.text, rest) := by
  simp only [List.mem_cons, List.not_mem_nil, or_false, not_or] at h
  simp [word, h]

/-- A literal that is written reads itself, by what its one token is. -/
lemma readsItself_literal {v : Value} (hw : (Expr.literal v).Writable) :
    ReadsItself stop limit (.literal v) := by
  intro room ts hts _ rest hr
  have hv := hw (.literal v) (by simp [Expr.nodes])
  simp only [Expr.spelling] at hts
  cases v with
  | null =>
    obtain ⟨t, rfl, ht⟩ := List.map_eq_singleton_iff.1 hts
    obtain ⟨hk, hx⟩ := Token.lexeme_eq_iff.1 ht
    show (call stop _).run (t :: rest) = _
    rw [run_call_word hk hr.no_paren]
    simp [word, hx, show Text.toLowerAscii "null" = "null" by decide]
  | bool b =>
    obtain ⟨t, rfl, ht⟩ := List.map_eq_singleton_iff.1 hts
    obtain ⟨hk, hx⟩ := Token.lexeme_eq_iff.1 ht
    show (call stop _).run (t :: rest) = _
    rw [run_call_word hk hr.no_paren]
    cases b
    · simp [word, hx, show Text.toLowerAscii "false" = "false" by decide]
    · simp [word, hx, show Text.toLowerAscii "true" = "true" by decide]
  | int n =>
    obtain ⟨t, rfl, ht⟩ := List.map_eq_singleton_iff.1 hts
    obtain ⟨hk, hx⟩ := Token.lexeme_eq_iff.1 ht
    -- The number is read back from its digits and its sign, which are in one token.
    have hvalue : numberValue? t.text = some (.int n) := by rw [hx, numberValue?_toString]
    show (call stop _).run (t :: rest) = _
    rw [run_call_primary (by simp [hk])]
    simp [primary, hk, hvalue]
  | string s =>
    obtain ⟨t, rfl, ht⟩ := List.map_eq_singleton_iff.1 hts
    obtain ⟨hk, hx⟩ := Token.lexeme_eq_iff.1 ht
    show (call stop _).run (t :: rest) = _
    rw [run_call_primary (by simp [hk])]
    simp [primary, hk, hx]
  | float x => exact absurd hv (by simp [Expr.isWritableNode])
  | list items => exact absurd hv (by simp [Expr.isWritableNode])
  | map entries => exact absurd hv (by simp [Expr.isWritableNode])

/-- A word that is none of the language is a name. -/
lemma reads_variable (ht : t.kind = .identifier) (h : Text.toLowerAscii t.text ∉ ["true", "false", "null", "if"])
    (follow : Level) : Reads stop limit room .primary follow [t] (.variable t.text) := by
  intro rest hr
  show (call stop _).run (t :: rest) = _
  rw [run_call_word ht hr.no_paren, run_word_variable h]

/-- A name that can be written reads itself. -/
lemma readsItself_variable {name : String} (hw : (Expr.variable name).Writable) :
    ReadsItself stop limit (.variable name) := by
  intro room ts hts _
  obtain ⟨t, rfl, ht⟩ := List.map_eq_singleton_iff.1 hts
  obtain ⟨hk, rfl⟩ := Token.lexeme_eq_iff.1 ht
  have hname := hw (.variable t.text) (by simp [Expr.nodes])
  exact reads_variable hk (by simpa [Expr.isWritableNode] using hname) _

/-- A call reads itself if its arguments read back. -/
lemma readsItself_call {name : String} {args : List Expr} (hw : (Expr.call name args).Writable)
    (hargs : ∀ a ∈ args, ReadsBack stop limit a) : ReadsItself stop limit (.call name args) := by
  intro room ts hts hroom rest _
  obtain ⟨t, tail, rfl, ht, htail⟩ := List.map_eq_cons_iff.1 hts
  obtain ⟨p, mid, u, rfl, hp, hmid, hu⟩ := lexemes_between htail
  obtain ⟨hk, hx⟩ := Token.lexeme_eq_iff.1 ht
  have hpk : p.kind = .lparen := congrArg Lexeme.kind hp
  have huk : u.kind = .rparen := congrArg Lexeme.kind hu
  have hif : t.isWord "if" = false := by
    have hname := hw (.call name args) (by simp [Expr.nodes])
    simpa [Token.isWord, hx, hk, Expr.isWritableNode] using hname
  cases room with
  | zero => simp at hroom
  | succ room =>
    have hargs : (delimited stop (descend stop limit (room + 1) .expression) .rparen .endOfArguments).run
        (mid ++ u :: rest) = .ok (args, rest) :=
      run_delimited hw.of_call hargs huk (by decide) hmid (by simp at hroom; omega)
    simp [Expr.level, Level.parser, call, hk, hpk, hif, hx, hargs]

/-- A list reads itself if its items are read back. -/
lemma readsItself_list {items : List Expr} (hw : (Expr.list items).Writable)
    (hitems : ∀ a ∈ items, ReadsBack stop limit a) : ReadsItself stop limit (.list items) := by
  intro room ts hts hroom rest _
  obtain ⟨t, mid, u, rfl, ht, hmid, hu⟩ := lexemes_between hts
  have hk : t.kind = .lbracket := congrArg Lexeme.kind ht
  have huk : u.kind = .rbracket := congrArg Lexeme.kind hu
  cases room with
  | zero => simp at hroom
  | succ room =>
    have hitems : (delimited stop (descend stop limit (room + 1) .expression) .rbracket .endOfList).run
        (mid ++ u :: rest) = .ok (items, rest) :=
      run_delimited hw.of_list hitems huk (by decide) hmid (by simp at hroom; omega)
    simp only [Expr.level, Level.parser, List.cons_append, List.append_assoc, List.nil_append]
    rw [run_call_primary (by simp [hk])]
    simp [primary, hk, hitems]

/-- A map reads itself if its values are read back. -/
lemma readsItself_map {entries : List (String × Expr)}
    (hentries : ∀ p ∈ entries, ReadsBack stop limit p.2) : ReadsItself stop limit (.map entries) := by
  intro room ts hts hroom rest _
  obtain ⟨t, mid, u, rfl, ht, hmid, hu⟩ := lexemes_between hts
  have hk : t.kind = .lbrace := congrArg Lexeme.kind ht
  have huk : u.kind = .rbrace := congrArg Lexeme.kind hu
  cases room with
  | zero => simp at hroom
  | succ room =>
    have hentries : (mapEntries stop (descend stop limit (room + 1) .expression)).run
        (mid ++ u :: rest) = .ok (entries, rest) :=
      run_mapEntries hentries huk hmid (by simp at hroom; omega)
    simp only [Expr.level, Level.parser, List.cons_append, List.append_assoc, List.nil_append]
    rw [run_call_primary (by simp [hk])]
    simp [primary, hk, hentries]

/-- A conditional without an alternative reads as a primary, where no alternative follows. -/
lemma reads_ifThen {c b : Expr} (hc : ReadsBack stop limit c) (hb : ReadsBack stop limit b)
    (hts : ts.map Token.lexeme = (Expr.ifThen c b).spelling) (hroom : ts.length ≤ room) :
    Reads stop limit room .primary .conditional ts (.ifThen c b) := by
  intro rest hr
  obtain ⟨t, tail, rfl, ht, htail⟩ := List.map_eq_cons_iff.1 hts
  obtain ⟨ts₁, tail, rfl, h₁, htail⟩ := List.map_eq_append_iff.1 htail
  obtain ⟨w, ts₂, rfl, hw, h₂⟩ := List.map_eq_cons_iff.1 htail
  obtain ⟨hk, hx⟩ := Token.lexeme_eq_iff.1 ht
  have hif : Text.toLowerAscii "if" = "if" := by decide
  have hthen : w.isWord "then" = true := by
    obtain ⟨hwk, hwx⟩ := Token.lexeme_eq_iff.1 hw
    have hlower : Text.toLowerAscii "then" = "then" := by decide
    simp [Token.isWord, hwk, hwx, hlower]
  cases room with
  | zero => simp at hroom
  | succ room =>
    simp only [List.length_cons, List.length_append] at hroom
    have hcond : (descend stop limit (room + 1) .expression).run (ts₁ ++ (w :: (ts₂ ++ rest))) =
        .ok (c, w :: (ts₂ ++ rest)) := hc.nested h₁ (by omega) (.of_then hw)
    have hbody : (descend stop limit (room + 1) .expression).run (ts₂ ++ rest) = .ok (b, rest) :=
      hb.nested h₂ (by omega) hr
    simp only [Level.parser, List.cons_append, List.append_assoc]
    rw [run_call_primary fun _ _ => by simp [Token.isWord, hk, hx, hif]]
    simp [primary, word, hk, hx, hif, conditionalWords, hcond, hthen, hbody, (hr.no_conditional rfl).2]

/-- A conditional without an alternative reads itself if its parts are read back. -/
lemma readsItself_ifThen {c b : Expr} (hc : ReadsBack stop limit c) (hb : ReadsBack stop limit b) :
    ReadsItself stop limit (.ifThen c b) := by
  intro room ts hts hroom
  have hreads := reads_ifThen hc hb hts hroom
  obtain ⟨t, tail, rfl, ht, -⟩ := List.map_eq_cons_iff.1 hts
  have hbegins : Expr.Begins t.lexeme .primary := ht ▸ .of_kind _ (by decide)
  exact hreads.loosen hbegins (Nat.zero_le _) (Nat.le_refl _)

/-- A conditional in signs reads itself if its parts are read back. -/
lemma readsItself_ifElse {c a b : Expr} (hc : ReadsBack stop limit c) (ha : ReadsBack stop limit a)
    (hb : ReadsBack stop limit b) : ReadsItself stop limit (.ifElse c a b) := by
  intro room ts hts hroom rest hr
  obtain ⟨ts₁, tail, rfl, h₁, htail⟩ := List.map_eq_append_iff.1 hts
  obtain ⟨q, tail, rfl, hq, htail⟩ := List.map_eq_cons_iff.1 htail
  obtain ⟨ts₂, tail, rfl, h₂, htail⟩ := List.map_eq_append_iff.1 htail
  obtain ⟨w, ts₃, rfl, hw, h₃⟩ := List.map_eq_cons_iff.1 htail
  have hquestion : q.isOperator "?" = true := by
    obtain ⟨hqk, hqx⟩ := Token.lexeme_eq_iff.1 hq
    simp [Token.isOperator, hqk, hqx]
  have hcolon : w.kind = .colon := congrArg Lexeme.kind hw
  simp only [List.length_cons, List.length_append] at hroom
  cases room with
  | zero => omega
  | succ room =>
    have hcond : (disjunction stop (descend stop limit (room + 1))).run
        (ts₁ ++ (q :: (ts₂ ++ (w :: (ts₃ ++ rest))))) = .ok (c, q :: (ts₂ ++ (w :: (ts₃ ++ rest)))) :=
      hc (room + 1) .or ts₁ h₁ (by omega) _ (.of_question hq)
    have hfirst : (descend stop limit (room + 1) .expression).run (ts₂ ++ (w :: (ts₃ ++ rest))) =
        .ok (a, w :: (ts₃ ++ rest)) := ha.nested h₂ (by omega) (.of_kind (by simp [hcolon]))
    have hsecond : (descend stop limit (room + 1) .expression).run (ts₃ ++ rest) = .ok (b, rest) :=
      hb.nested h₃ (by omega) hr
    simp only [Expr.level, Level.parser, List.cons_append, List.append_assoc]
    simp [Parser.conditional, hcond, hquestion, hfirst, run_expect hcolon, hsecond]

/-- A prefix operator reads itself if its operand is read back. -/
lemma readsItself_unary {op : UnaryOp} {operand : Expr} (h : ReadsBack stop limit operand) :
    ReadsItself stop limit (.unary op operand) := by
  intro room ts hts hroom rest hr
  obtain ⟨t, ts, rfl, ht, htail⟩ := List.map_eq_cons_iff.1 hts
  obtain ⟨hk, hx⟩ := Token.lexeme_eq_iff.1 ht
  cases room with
  | zero => simp at hroom
  | succ room =>
    have hoperand := h room op.level ts htail (Nat.le_of_succ_le_succ hroom) rest hr
    cases op with
    | not =>
      have hsign : t.isOperator "!" = true := by simp [Token.isOperator, hk, hx, UnaryOp.symbol]
      have hoperand : (descend stop limit (room + 1) .negation).run (ts ++ rest) = .ok (operand, rest) :=
        hoperand
      simp [Expr.level, UnaryOp.level, Level.parser, Parser.negation, hsign, hoperand]
    | negate =>
      have hoperand : (descend stop limit (room + 1) .prefixed).run (ts ++ rest) = .ok (operand, rest) :=
        hoperand
      simp [Expr.level, UnaryOp.level, Level.parser, Parser.prefixed, hk, hx, UnaryOp.symbol, prefixOp?,
        hoperand]
    | «exists» =>
      have hoperand : (descend stop limit (room + 1) .prefixed).run (ts ++ rest) = .ok (operand, rest) :=
        hoperand
      simp [Expr.level, UnaryOp.level, Level.parser, Parser.prefixed, hk, hx, UnaryOp.symbol, prefixOp?,
        hoperand]

/-- The chain parser of a level comes to the end of an expression in a place of the level with the
expression as the left operand of whatever follows, and fuel for all the tokens that follow. -/
def Leads (stop : Token) (limit : Nat) (level : Level) (e : Expr) : Prop :=
  ∀ (room : Nat) (ts rest : List Token), ts.map Token.lexeme = e.spellingAt level → ts.length ≤ room →
    level.next.Ends (front stop rest) →
    ∃ fuel, rest.length ≤ fuel ∧
      (level.parser stop (descend stop limit room)).run (ts ++ rest) =
        (chainRest stop level.operator? (level.next.parser stop (descend stop limit room)) fuel e).run rest

/-- An expression that is no chain of the level is its first operand. -/
lemma ReadsBack.leads (h : ReadsBack stop limit e) (op : BinaryOp) (hne : e.level ≠ op.level) :
    Leads stop limit op.level e := by
  intro room ts rest hts hroom hr
  -- No expression lies between the two places but those of the operator's own level.
  have hsame : e.spellingAt op.level = e.spellingAt op.level.next := by
    rcases Nat.lt_or_ge e.level.rank op.level.rank with hlt | hge
    · have hnext : e.level < op.level.next := Nat.lt_of_lt_of_le hlt (by cases op <;> decide)
      rw [Expr.spellingAt_of_lt hlt, Expr.spellingAt_of_lt hnext]
    · have hnext : op.level.next ≤ e.level := by
        revert hne hge
        cases op <;> cases e.level <;> decide
      rw [Expr.spellingAt_of_le hge, Expr.spellingAt_of_le hnext]
  refine ⟨rest.length, Nat.le_refl _, ?_⟩
  rw [Level.parser_eq_chain]
  exact run_chain (h room op.level.next ts (hts.trans hsame) hroom rest hr)

/-- The chain parser of a level goes over an operator of the level and its right operand. -/
lemma leads_binary {op : BinaryOp} {left right : Expr} (hleft : Leads stop limit op.level left)
    (hright : ReadsBack stop limit right) : Leads stop limit op.level (.binary op left right) := by
  intro room ts rest hts hroom hr
  have hown : op.level ≤ (Expr.binary op left right).level := Nat.le_refl _
  rw [Expr.spellingAt_of_le hown] at hts
  obtain ⟨ts₁, tail, rfl, h₁, htail⟩ := List.map_eq_append_iff.1 hts
  obtain ⟨t, ts₂, rfl, ht, h₂⟩ := List.map_eq_cons_iff.1 htail
  have hk : t.kind = .operator := congrArg Lexeme.kind ht
  have hx : op.level.operator? t.text = some op := by
    rw [show t.text = op.symbol from congrArg Lexeme.text ht, Level.operator?_symbol, if_pos rfl]
  simp only [List.length_cons, List.length_append] at hroom
  have hnext : op.level < op.level.next := by cases op <;> decide
  -- The left operand ends before the operator, with fuel for the operator and what follows.
  obtain ⟨fuel, hfuel, hrun⟩ := hleft room ts₁ (t :: (ts₂ ++ rest)) h₁ (by omega) (.of_symbol ht hnext)
  obtain ⟨fuel, rfl⟩ := Nat.exists_eq_succ_of_ne_zero (Nat.ne_of_gt (Nat.zero_lt_of_lt hfuel))
  simp only [List.length_cons, List.length_append] at hfuel
  have hoperand := hright room op.level.next ts₂ h₂ (by omega) rest hr
  refine ⟨fuel, by omega, ?_⟩
  rw [List.append_assoc, List.cons_append, hrun, run_chainRest_op hk hx hoperand]

/-- A chain that leads to its end reads itself. -/
lemma Leads.readsItself {op : BinaryOp} {left right : Expr}
    (h : Leads stop limit op.level (.binary op left right)) :
    ReadsItself stop limit (.binary op left right) := by
  intro room ts hts hroom rest hr
  have hown : op.level ≤ (Expr.binary op left right).level := Nat.le_refl _
  have hr : op.level.Ends (front stop rest) := hr
  have hnext : op.level ≤ op.level.next := by cases op <;> decide
  obtain ⟨fuel, -, hrun⟩ := h room ts rest (by rwa [Expr.spellingAt_of_le hown]) hroom (hr.mono hnext)
  exact hrun.trans (run_chainRest_stop (hr.no_operator _ (Nat.le_refl _)) fuel)

/-- An expression that is no chain leads as the first operand of every chain, once it reads itself. -/
lemma ReadsItself.readsBack_and_leads (hw : e.Writable) (h : ReadsItself stop limit e)
    (hne : ∀ op : BinaryOp, e.level ≠ op.level) :
    ReadsBack stop limit e ∧ ∀ op : BinaryOp, Leads stop limit op.level e :=
  ⟨h.readsBack hw, fun op => (h.readsBack hw).leads op (hne op)⟩

/-- A writable expression reads back in every place, and leads every chain. -/
lemma readsBack_and_leads (hw : e.Writable) :
    ReadsBack stop limit e ∧ ∀ op : BinaryOp, Leads stop limit op.level e := by
  induction e using Expr.induction with
  -- Nothing but an operation leads a chain, so for all other nodes it is enough that they read themselves.
  | literal v => exact (readsItself_literal hw).readsBack_and_leads hw fun op => by cases op <;> nofun
  | var name => exact (readsItself_variable hw).readsBack_and_leads hw fun op => by cases op <;> nofun
  | call name args ih =>
    have own : ReadsItself stop limit (.call name args) :=
      readsItself_call hw fun a ha => (ih a ha (hw.of_call a ha)).1
    exact own.readsBack_and_leads hw fun op => by cases op <;> nofun
  | list items ih =>
    have own : ReadsItself stop limit (.list items) :=
      readsItself_list hw fun a ha => (ih a ha (hw.of_list a ha)).1
    exact own.readsBack_and_leads hw fun op => by cases op <;> nofun
  | map entries ih =>
    have own : ReadsItself stop limit (.map entries) :=
      readsItself_map fun p hp => (ih p hp (hw.of_map p hp)).1
    exact own.readsBack_and_leads hw fun op => by cases op <;> nofun
  | unary op operand ih =>
    have own : ReadsItself stop limit (.unary op operand) := readsItself_unary (ih hw.of_unary).1
    exact own.readsBack_and_leads hw fun other => by cases op <;> cases other <;> nofun
  | ifThen c b ihc ihb =>
    obtain ⟨hwc, hwb⟩ := hw.of_ifThen
    have own : ReadsItself stop limit (.ifThen c b) := readsItself_ifThen (ihc hwc).1 (ihb hwb).1
    exact own.readsBack_and_leads hw fun op => by cases op <;> nofun
  | ifElse c a b ihc iha ihb =>
    obtain ⟨hwc, hwa, hwb⟩ := hw.of_ifElse
    have own : ReadsItself stop limit (.ifElse c a b) :=
      readsItself_ifElse (ihc hwc).1 (iha hwa).1 (ihb hwb).1
    exact own.readsBack_and_leads hw fun op => by cases op <;> nofun
  | binary op left right ihl ihr =>
    obtain ⟨hwl, hwr⟩ := hw.of_binary
    have hleads : Leads stop limit op.level (.binary op left right) :=
      leads_binary ((ihl hwl).2 op) (ihr hwr).1
    have hback := hleads.readsItself.readsBack hw
    refine ⟨hback, fun other => ?_⟩
    -- In a chain of its own level it is a part of the chain, in any other it is an operand.
    by_cases hlevel : op.level = other.level
    · exact hlevel ▸ hleads
    · exact hback.leads other hlevel

end Parser

/-- Parsing undoes printing with as few parentheses as the precedence allows: the tokens that spell
a writable expression parse to that expression, wherever they stand in a source and whatever comes
after the end of the input, if nesting may be deeper than there are tokens. -/
theorem Expr.ofTokens_spelling {e : Expr} {ts after : List Token} {maxDepth : Nat} (hw : e.Writable)
    (hts : ts.map Token.lexeme = e.spelling) (hdepth : ts.length < maxDepth)
    (hafter : ∀ t ∈ after.head?, t.kind = .eof) : Expr.ofTokens (ts ++ after) maxDepth = .ok e := by
  have hfree : ∀ t ∈ ts, t.kind ≠ .eof := fun t ht =>
    Expr.endFree_spelling e t.lexeme (hts ▸ List.mem_map_of_mem ht)
  have hstop := TokenStream.kind_stop (ts ++ after)
  show (Parser.whole (TokenStream.ofTokens _).stop maxDepth).run' (TokenStream.ofTokens _).tokens = .ok e
  rw [TokenStream.tokens_append hfree hafter]
  generalize (TokenStream.ofTokens (ts ++ after)).stop = stop at hstop
  cases maxDepth with
  | zero => exact absurd hdepth (Nat.not_lt_zero _)
  | succ room =>
    have hback : Parser.ReadsBack stop (room + 1) e := (Parser.readsBack_and_leads hw).1
    have hread : (Parser.descend stop (room + 1) (room + 1) .expression).run (ts ++ []) = .ok (e, []) :=
      hback.nested hts (Nat.le_of_lt_succ hdepth) (.of_kind (by simp [hstop]))
    rw [List.append_nil] at hread
    simp [Parser.whole, hread, hstop]

/-- The tokens of `!(a && exists b) || a - (b - -2) < f(x)`, with every pair of parentheses it
needs. -/
theorem ofTokens_spelling_parentheses :
    let e : Expr :=
      .binary .or
        (.unary .not (.binary .and (.variable "a") (.unary .exists (.variable "b"))))
        (.binary .less
          (.binary .subtract (.variable "a") (.binary .subtract (.variable "b") (.literal (.int (-2)))))
          (.call "f" [.variable "x"]))
    let ts : List Token :=
      [⟨.operator, "!", 0⟩, ⟨.lparen, "(", 1⟩, ⟨.identifier, "a", 2⟩, ⟨.operator, "&&", 4⟩,
        ⟨.operator, "exists", 7⟩, ⟨.identifier, "b", 14⟩, ⟨.rparen, ")", 15⟩, ⟨.operator, "||", 17⟩,
        ⟨.identifier, "a", 20⟩, ⟨.operator, "-", 22⟩, ⟨.lparen, "(", 24⟩, ⟨.identifier, "b", 25⟩,
        ⟨.operator, "-", 27⟩, ⟨.number, "-2", 29⟩, ⟨.rparen, ")", 31⟩, ⟨.operator, "<", 33⟩,
        ⟨.identifier, "f", 35⟩, ⟨.lparen, "(", 36⟩, ⟨.identifier, "x", 37⟩, ⟨.rparen, ")", 38⟩]
    e.Writable ∧ ts.map Token.lexeme = e.spelling ∧ Expr.ofTokens (ts ++ [.eof 39]) 21 = .ok e := by
  intro e ts
  have hw : e.Writable := by decide
  have hts : ts.map Token.lexeme = e.spelling := by decide
  exact ⟨hw, hts, Expr.ofTokens_spelling hw hts (by decide) (by decide)⟩

end EventRules
