import EventRules.Proofs.Parser.Grammar
import EventRules.Proofs.Parser.Place

/-!
# The parser keeps to the grammar

What a parser takes off the front of the tokens derives, in the grammar, what it gives.
`Parser.Takes` says of a run what the tokens that it takes have to do with its result, and is proved
of a sequence by splitting these tokens between the steps. The parsers of the levels are gone
through once, on the assumption that the ways to the next deeper level keep to the grammar; the
induction is then on the room for nesting.
-/

namespace EventRules

/-- An operator is known at its own level alone, by its own spelling. -/
lemma Level.operator?_eq_some {level : Level} {text : String} {op : BinaryOp} (h : level.operator? text = some op) :
    op.level = level ∧ text = op.symbol := by
  revert h
  cases level <;> simp only [operator?, BinaryOp.comparison?, BinaryOp.additive?, BinaryOp.multiplicative?] <;>
    grind [BinaryOp.level, BinaryOp.symbol]

/-- The place in which a way to the next deeper level reads an expression. -/
def Entry.place : Entry → Level
  | .expression => .conditional
  | .negation => .not
  | .prefixed => .unary

namespace Parser

variable {α β : Type} {stop t : Token} {ts ls : List Token} {R : List Token → α → Prop} {S : List Token → β → Prop}
  {item operand : Parser Expr} {kind close : TokenKind} {what : Expected} {level : Level} {left : Expr}

/-- A run on `ts` that gives a result takes tokens off the front that are related to it, and leaves
the rest. -/
def Takes (x : Parser α) (ts : List Token) (R : List Token → α → Prop) : Prop :=
  ∀ a rest, x.run ts = .ok (a, rest) → ∃ used, ts = used ++ rest ∧ R used a

namespace Takes

/-- A result without reading takes no tokens. -/
lemma pure {a : α} (h : R [] a) : Takes (Pure.pure a) ts R := by
  rintro _ _ ⟨⟩
  exact ⟨[], rfl, h⟩

/-- A failure gives no result, so that nothing is asked of it. -/
lemma failAt (t : Token) (fault : SyntaxFault) : Takes (failAt t fault : Parser α) ts R :=
  nofun

/-- What is missing is a failure. -/
lemma missing (what : Expected) : Takes (missing stop what : Parser α) ts R :=
  nofun

/-- The tokens of a sequence are those of its steps, one after the other. -/
lemma bind {x : Parser α} {f : α → Parser β} (hx : Takes x ts R)
    (hf : ∀ used a mid, R used a → Takes (f a) mid fun us b => S (used ++ us) b) : Takes (x >>= f) ts S := by
  intro b rest h
  rw [StateT.run_bind] at h
  cases hrun : x.run ts with
  | error err =>
    rw [hrun] at h
    cases h
  | ok r =>
    obtain ⟨a, mid⟩ := r
    rw [hrun] at h
    obtain ⟨used, hts, ha⟩ := hx a mid hrun
    obtain ⟨us, hmid, hb⟩ := hf used a mid ha b rest h
    exact ⟨used ++ us, by rw [hts, hmid, List.append_assoc], hb⟩

/-- Looking at the tokens takes none. -/
lemma get {f : List Token → Parser α} (h : Takes (f ts) ts R) : Takes (MonadState.get >>= f) ts R :=
  h

/-- To look at the token at the front takes nothing. -/
lemma current {f : Token → Parser α} (h : Takes (f (front stop ts)) ts R) : Takes (current stop >>= f) ts R :=
  h

/-- The token that is taken comes first. -/
lemma advance {f : Token → Parser α} (h : Takes (f t) ts fun us a => R (t :: us) a) :
    Takes (advance stop >>= f) (t :: ts) R := by
  intro a rest hrun
  obtain ⟨used, hts, ha⟩ := h a rest hrun
  exact ⟨t :: used, by rw [hts, List.cons_append], ha⟩

/-- A token that is not looked at again is taken all the same. -/
lemma discard {f : Unit → Parser α} (h : Takes (f ()) ts fun us a => R (t :: us) a) :
    Takes (Functor.discard (Parser.advance stop) >>= f) (t :: ts) R :=
  show Takes (Parser.advance stop >>= fun _ => f ()) (t :: ts) R from advance h

/-- To go on with the rest of the tokens is to take those before it. -/
lemma set {f : PUnit → Parser α} (h : Takes (f ⟨⟩) ts fun us a => R (ls ++ us) a) :
    Takes (MonadStateOf.set ts >>= f) (ls ++ ts) R := by
  intro a rest hrun
  obtain ⟨used, hts, ha⟩ := h a rest hrun
  exact ⟨ls ++ used, by rw [hts, List.append_assoc], ha⟩

end Takes

/-- Where the front is of a kind that is not the end of the input it is a token of that kind. -/
lemma cons_of_front_eq (hstop : stop.kind = .eof) (h : (front stop ts).kind = kind) (hkind : kind ≠ .eof) :
    ∃ t us, ts = t :: us ∧ t.kind = kind := by
  subst h
  cases ts with
  | nil => exact absurd hstop hkind
  | cons t us => exact ⟨t, us, rfl, rfl⟩

/-- The token that is expected is the one that is taken. -/
lemma takes_expect (hstop : stop.kind = .eof) (hkind : kind ≠ .eof) :
    Takes (expect stop kind what) ts fun used _ => ∃ t, used = [t] ∧ t.kind = kind := by
  refine .current ?_
  split
  case isTrue hk =>
    obtain ⟨t, us, rfl, ht⟩ := cons_of_front_eq hstop hk hkind
    rintro _ _ ⟨⟩
    exact ⟨[t], rfl, t, rfl, ht⟩
  case isFalse => exact .missing _

/-- An operator of a level is taken as a token with its spelling. -/
lemma takes_operator? (hstop : stop.kind = .eof) :
    Takes (operator? stop level.operator?) ts fun used found =>
      found = none ∧ used = [] ∨
        ∃ op t, found = some op ∧ used = [t] ∧ op.level = level ∧ t.isOperator op.symbol := by
  refine .current ?_
  split
  case h_1 op ho =>
    split at ho
    case isTrue hk =>
      obtain ⟨t, us, rfl, ht⟩ := cons_of_front_eq hstop hk (by decide)
      obtain ⟨hlevel, htext⟩ := Level.operator?_eq_some ho
      refine .discard (.pure (.inr ⟨op, t, rfl, rfl, hlevel, ?_⟩))
      simp [Token.isOperator, ht, show t.text = op.symbol from htext]
    case isFalse => cases ho
  case h_2 => exact .pure (.inl ⟨rfl, rfl⟩)

/-- Whatever the tokens are, what the parser takes derives what it gives in a place of the level. -/
def Keeps (level : Level) (x : Parser Expr) : Prop :=
  ∀ ts, Takes x ts fun used e => Derives (fun _ => True) (.expression level e) used

/-- A chain goes on as the left operand of what follows. -/
lemma takes_chainRest (hstop : stop.kind = .eof) (h : Keeps level.next operand) (fuel : Nat) (ts : List Token)
    (hleft : Derives (fun _ => True) (.expression level left) ls) :
    Takes (chainRest stop level.operator? operand fuel left) ts fun used e =>
      Derives (fun _ => True) (.expression level e) (ls ++ used) := by
  induction fuel generalizing left ls ts with
  | zero => exact .pure (by rwa [List.append_nil])
  | succ fuel ih =>
    refine (takes_operator? hstop).bind fun used found mid hfound => ?_
    rcases hfound with ⟨rfl, rfl⟩ | ⟨op, t, rfl, rfl, rfl, ht⟩
    · exact .pure (by rwa [List.append_nil, List.append_nil])
    · refine (h mid).bind fun rs right mid hright => ?_
      have hbinary := Derives.binary hleft ht hright
      simpa only [List.append_assoc, List.cons_append, List.nil_append] using ih mid hbinary

/-- An operand of a tighter level is an expression of the looser one. -/
lemma Keeps.loosen (h : Keeps level.next operand) : Keeps level operand :=
  fun ts e rest hrun => (h ts e rest hrun).imp fun _ hused => ⟨hused.1, hused.2.loosen⟩

/-- A chain keeps to its level if its operands keep to the next one. -/
lemma Keeps.chain (hstop : stop.kind = .eof) (h : Keeps level.next operand) :
    Keeps level (chain stop level.operator? operand) :=
  fun ts => (h ts).bind fun _ _ _ hleft => .get (takes_chainRest hstop h _ _ hleft.loosen)

/-- Behind the first item come the others, each with a comma, and what closes. -/
lemma takes_delimitedRest (hstop : stop.kind = .eof) (h : Keeps .conditional item) (hclose : close ≠ .eof) (fuel : Nat)
    (ts : List Token) :
    Takes (delimitedRest stop item close what fuel) ts fun used es =>
      ∃ us u, used = us ++ [u] ∧ Derives (fun _ => True) (.moreItems es) us ∧ u.kind = close := by
  induction fuel generalizing ts with
  | zero => exact .missing _
  | succ fuel ih =>
    refine .current ?_
    split
    case isTrue hk =>
      obtain ⟨comma, us, rfl, hcomma⟩ := cons_of_front_eq hstop hk (by decide)
      refine .discard ((h us).bind fun used e mid he => (ih mid).bind fun _ es _ hes => .pure ?_)
      obtain ⟨us, u, rfl, hes, hu⟩ := hes
      exact ⟨comma :: (used ++ us), u, by simp, .moreItems hcomma he hes, hu⟩
    case isFalse =>
      refine (takes_expect hstop hclose).bind fun _ _ _ hu => .pure ?_
      obtain ⟨u, rfl, hu⟩ := hu
      exact ⟨[], u, rfl, .noMoreItems, hu⟩

/-- Items up to the closing token. -/
lemma takes_delimited (hstop : stop.kind = .eof) (h : Keeps .conditional item) (hclose : close ≠ .eof)
    (ts : List Token) :
    Takes (delimited stop item close what) ts fun used es =>
      ∃ us u, used = us ++ [u] ∧ Derives (fun _ => True) (.items es) us ∧ u.kind = close := by
  refine .current ?_
  split
  case isTrue hk =>
    obtain ⟨u, us, rfl, hu⟩ := cons_of_front_eq hstop hk hclose
    exact .discard (.pure ⟨[], u, rfl, .noItems, hu⟩)
  case isFalse =>
    refine (h ts).bind fun used e mid he => .get ?_
    refine (takes_delimitedRest hstop h hclose _ mid).bind fun _ es _ hes => .pure ?_
    obtain ⟨us, u, rfl, hes, hu⟩ := hes
    exact ⟨used ++ us, u, by simp, .items he hes, hu⟩

/-- The key of an entry is the text of its token. -/
lemma takes_mapKey (hstop : stop.kind = .eof) (ts : List Token) :
    Takes (mapKey stop) ts fun used key => ∃ t, used = [t] ∧ t.IsKey ∧ key = t.text := by
  refine .current ?_
  split
  case h_4 => exact .missing _
  all_goals
    rename_i hk
    obtain ⟨t, us, rfl, ht⟩ := cons_of_front_eq hstop hk (by decide)
    exact .discard (.pure ⟨t, rfl, by simp [Token.IsKey, ht], rfl⟩)

/-- An entry of a map is a key, a colon and an expression. -/
lemma takes_mapEntry (hstop : stop.kind = .eof) (h : Keeps .conditional item) (ts : List Token) :
    Takes (mapEntry stop item) ts fun used p =>
      ∃ key colon us, used = key :: colon :: us ∧ key.IsKey ∧ colon.kind = .colon ∧ p.1 = key.text ∧
        Derives (fun _ => True) (.expression .conditional p.2) us := by
  refine (takes_mapKey hstop ts).bind fun _ _ mid hkey => ?_
  obtain ⟨key, rfl, hkey, rfl⟩ := hkey
  refine (takes_expect hstop (by decide)).bind fun _ _ mid hcolon => ?_
  obtain ⟨colon, rfl, hcolon⟩ := hcolon
  exact (h mid).bind fun us e _ he => .pure ⟨key, colon, us, by simp, hkey, hcolon, rfl, he⟩

/-- Behind the first entry come the others in the same way. -/
lemma takes_mapRest (hstop : stop.kind = .eof) (h : Keeps .conditional item) (fuel : Nat) (ts : List Token) :
    Takes (mapRest stop item fuel) ts fun used ps =>
      ∃ us u, used = us ++ [u] ∧ Derives (fun _ => True) (.moreEntries ps) us ∧ u.kind = .rbrace := by
  induction fuel generalizing ts with
  | zero => exact .missing _
  | succ fuel ih =>
    refine .current ?_
    split
    case isTrue hk =>
      obtain ⟨comma, us, rfl, hcomma⟩ := cons_of_front_eq hstop hk (by decide)
      refine .discard ((takes_mapEntry hstop h us).bind fun _ p mid hp => (ih mid).bind fun _ ps _ hps => .pure ?_)
      -- The key and the colon of the entry come between the comma and the tokens of its value.
      obtain ⟨key, colon, used, rfl, hkey, hcolon, hname, he⟩ := hp
      obtain ⟨us, u, rfl, hps, hu⟩ := hps
      refine ⟨comma :: key :: colon :: (used ++ us), u, by simp, ?_, hu⟩
      rw [show p = (key.text, p.2) from Prod.ext hname rfl]
      exact .moreEntries hcomma hkey hcolon he hps
    case isFalse =>
      refine (takes_expect hstop (by decide)).bind fun _ _ _ hu => .pure ?_
      obtain ⟨u, rfl, hu⟩ := hu
      exact ⟨[], u, rfl, .noMoreEntries, hu⟩

/-- A map closes at once, or has a first entry and others. -/
lemma takes_mapEntries (hstop : stop.kind = .eof) (h : Keeps .conditional item) (ts : List Token) :
    Takes (mapEntries stop item) ts fun used ps =>
      ∃ us u, used = us ++ [u] ∧ Derives (fun _ => True) (.entries ps) us ∧ u.kind = .rbrace := by
  refine .current ?_
  split
  case isTrue hk =>
    obtain ⟨u, us, rfl, hu⟩ := cons_of_front_eq hstop hk (by decide)
    exact .discard (.pure ⟨[], u, rfl, .noEntries, hu⟩)
  case isFalse =>
    refine (takes_mapEntry hstop h ts).bind fun _ p mid hp =>
      .get ((takes_mapRest hstop h _ mid).bind fun _ ps _ hps => .pure ?_)
    obtain ⟨key, colon, used, rfl, hkey, hcolon, hname, he⟩ := hp
    obtain ⟨us, u, rfl, hps, hu⟩ := hps
    refine ⟨key :: colon :: (used ++ us), u, by simp, ?_, hu⟩
    rw [show p = (key.text, p.2) from Prod.ext hname rfl]
    exact .entries hkey hcolon he hps

/-- A word at the front is a token, for the end of the input is no word. -/
lemma cons_of_isWord {word : String} (hstop : stop.kind = .eof) (h : (front stop ts).isWord word = true) :
    ∃ t us, ts = t :: us ∧ t.isWord word = true := by
  have hkind : (front stop ts).kind = .identifier := by
    simp only [Token.isWord, Bool.and_eq_true, beq_iff_eq] at h
    exact h.1
  obtain ⟨t, us, rfl, -⟩ := cons_of_front_eq hstop hkind (by decide)
  exact ⟨t, us, rfl, h⟩

/-- A conditional in words derives with its word `if` in front. -/
lemma takes_conditionalWords (hstop : stop.kind = .eof) (h : Keeps .conditional item) (ht : t.isWord "if")
    (ts : List Token) :
    Takes (conditionalWords stop item) ts fun used e =>
      Derives (fun _ => True) (.expression .primary e) (t :: used) := by
  refine (h ts).bind fun cs c mid hc => .current ?_
  split
  case isTrue => exact .missing _
  case isFalse hthen =>
    simp only [Bool.not_eq_true', Bool.not_eq_false] at hthen
    obtain ⟨thenWord, us, rfl, hthen⟩ := cons_of_isWord hstop hthen
    refine .discard ((h us).bind fun as a mid ha => .current ?_)
    split
    case isTrue helse =>
      obtain ⟨elseWord, us, rfl, helse⟩ := cons_of_isWord hstop helse
      refine .discard ((h us).bind fun bs b _ hb => .pure ?_)
      simpa using Derives.ifElse ht hc hthen ha helse hb
    case isFalse => exact .pure (by simpa using Derives.ifThen ht hc hthen ha)

/-- A word derives as a conditional, a literal or a name. -/
lemma takes_word (hstop : stop.kind = .eof) (h : Keeps .conditional item) (ht : t.kind = .identifier)
    (ts : List Token) :
    Takes (word stop item) (t :: ts) fun used e => Derives (fun _ => True) (.expression .primary e) used := by
  have isWord {text : String} (hw : Text.toLowerAscii t.text = text) : t.isWord text = true := by
    simp [Token.isWord, ht, hw]
  refine .advance ?_
  split
  case h_1 hw => exact .pure (.literal (.trueWord (isWord hw)))
  case h_2 hw => exact .pure (.literal (.falseWord (isWord hw)))
  case h_3 hw => exact .pure (.literal (.nullWord (isWord hw)))
  case h_4 hw => exact takes_conditionalWords hstop h (isWord hw) ts
  case h_5 htrue hfalse hnull hif =>
    refine .pure (.variable ⟨ht, ?_⟩)
    simp_all [Token.isWord]

/-- The value of a number is written by its text. -/
lemma writtenBy_of_numberValue? {text : String} {v : Value} (h : numberValue? text = some v) : v.WrittenBy text := by
  simp only [numberValue?] at h
  split at h
  case isTrue hany =>
    obtain ⟨x, hx, rfl⟩ := Option.map_eq_some_iff.1 h
    exact .float (by simpa [or_assoc] using hany) hx
  case isFalse hany =>
    obtain ⟨n, hn, rfl⟩ := Option.map_eq_some_iff.1 h
    exact .int (by simpa [not_or, and_assoc] using hany) hn

/-- A primary expression keeps to the grammar by the kind of its first token. -/
lemma Keeps.primary (hstop : stop.kind = .eof) (h : Keeps .conditional item) : Keeps .primary (primary stop item) := by
  intro ts
  refine .current ?_
  split
  case h_1 hk =>
    obtain ⟨t, us, rfl, ht⟩ := cons_of_front_eq hstop hk (by decide)
    refine .discard ?_
    split
    case h_1 v hv => exact .pure (.literal (.number ht (writtenBy_of_numberValue? hv)))
    case h_2 => exact .failAt _ _
  case h_2 hk =>
    obtain ⟨t, us, rfl, ht⟩ := cons_of_front_eq hstop hk (by decide)
    exact .discard (.pure (.literal (.string ht)))
  case h_3 hk =>
    obtain ⟨t, us, rfl, ht⟩ := cons_of_front_eq hstop hk (by decide)
    refine .discard ((h us).bind fun used e mid he => (takes_expect hstop (by decide)).bind fun _ _ _ hu => .pure ?_)
    obtain ⟨u, rfl, hu⟩ := hu
    simpa using Derives.parentheses ht he hu
  case h_4 hk =>
    obtain ⟨t, us, rfl, ht⟩ := cons_of_front_eq hstop hk (by decide)
    refine .discard ((takes_delimited hstop h (by decide) us).bind fun _ es _ hes => .pure ?_)
    obtain ⟨us, u, rfl, hes, hu⟩ := hes
    simpa using Derives.list ht hes hu
  case h_5 hk =>
    obtain ⟨t, us, rfl, ht⟩ := cons_of_front_eq hstop hk (by decide)
    refine .discard ((takes_mapEntries hstop h us).bind fun _ ps _ hps => .pure ?_)
    obtain ⟨us, u, rfl, hps, hu⟩ := hps
    simpa using Derives.map ht hps hu
  case h_6 hk =>
    obtain ⟨t, us, rfl, ht⟩ := cons_of_front_eq hstop hk (by decide)
    exact takes_word hstop h ht us
  case h_7 => exact .missing _
  case h_8 => exact .failAt _ _

/-- A call keeps to the grammar by its name and its arguments. -/
lemma Keeps.call (hstop : stop.kind = .eof) (h : Keeps .conditional item) : Keeps .primary (call stop item) := by
  intro ts
  refine .get ?_
  split
  case h_1 name opening us =>
    split
    case isTrue hcall =>
      obtain ⟨hname, hopening, hif⟩ := hcall
      have hif : name.isWord "if" = false := by simpa using hif
      suffices h : Takes (set us >>= fun _ => Expr.call name.text <$> delimited stop item .rparen .endOfArguments)
          ([name, opening] ++ us) _ from h
      refine .set ((takes_delimited hstop h (by decide) us).bind fun _ args _ hargs => .pure ?_)
      obtain ⟨us, u, rfl, hargs, hu⟩ := hargs
      simpa using Derives.call hname hif hopening hargs hu
    case isFalse => exact h.primary hstop _
  case h_2 => exact h.primary hstop _

variable {deeper : Entry → Parser Expr}

/-- A prefix operator keeps to the grammar, or else a call does. -/
lemma Keeps.prefixed (hstop : stop.kind = .eof) (h : ∀ entry : Entry, Keeps entry.place (deeper entry)) :
    Keeps .unary (prefixed stop deeper) := by
  intro ts
  refine .current ?_
  split
  case h_1 op ho =>
    split at ho
    case isTrue hk =>
      obtain ⟨t, us, rfl, ht⟩ := cons_of_front_eq hstop hk (by decide)
      refine .discard ((h .prefixed us).bind fun used e _ he => .pure ?_)
      -- The operator is found by its sign, and the sign is its own.
      have hop : t.isOperator op.symbol = true := by
        have ho : prefixOp? t.text = some op := ho
        simp only [prefixOp?] at ho
        simp only [Token.isOperator, ht]
        grind [UnaryOp.symbol]
      simpa using Derives.prefixed trivial hop he
    case isFalse => cases ho
  case h_2 =>
    have hcall : Keeps Level.unary.next (Parser.call stop (deeper .expression)) := (h .expression).call hstop
    exact hcall.loosen ts

/-- A comparison is a chain over sums and products. -/
lemma Keeps.comparison (hstop : stop.kind = .eof) (h : ∀ entry : Entry, Keeps entry.place (deeper entry)) :
    Keeps .comparison (comparison stop deeper) :=
  have hproduct : Keeps .multiplicative _ := .chain hstop (.prefixed hstop h)
  have hsum : Keeps .additive _ := .chain hstop hproduct
  .chain hstop hsum

/-- A negation keeps to the grammar, or else a comparison does. -/
lemma Keeps.negation (hstop : stop.kind = .eof) (h : ∀ entry : Entry, Keeps entry.place (deeper entry)) :
    Keeps .not (negation stop deeper) := by
  intro ts
  refine .current ?_
  split
  case isTrue hsign =>
    have hk : (front stop ts).kind = .operator := by
      simp only [Token.isOperator, Bool.and_eq_true, beq_iff_eq] at hsign
      exact hsign.1
    obtain ⟨t, us, rfl, -⟩ := cons_of_front_eq hstop hk (by decide)
    exact .discard ((h .negation us).bind fun used e _ he => .pure (by simpa using Derives.negation hsign he))
  case isFalse =>
    have hcomparison : Keeps Level.not.next (Parser.comparison stop deeper) := .comparison hstop h
    exact hcomparison.loosen ts

/-- Conjunctions and disjunctions are chains over negations. -/
lemma Keeps.disjunction (hstop : stop.kind = .eof) (h : ∀ entry : Entry, Keeps entry.place (deeper entry)) :
    Keeps .or (disjunction stop deeper) :=
  have hconjunction : Keeps .and _ := .chain hstop (.negation hstop h)
  .chain hstop hconjunction

/-- A conditional in signs keeps to the grammar, or else its condition does alone. -/
lemma Keeps.conditional (hstop : stop.kind = .eof) (h : ∀ entry : Entry, Keeps entry.place (deeper entry)) :
    Keeps .conditional (conditional stop deeper) := by
  intro ts
  refine (Keeps.disjunction hstop h ts).bind fun cs c mid hc => .current ?_
  split
  case isTrue hquestion =>
    have hk : (front stop mid).kind = .operator := by
      simp only [Token.isOperator, Bool.and_eq_true, beq_iff_eq] at hquestion
      exact hquestion.1
    obtain ⟨question, us, rfl, -⟩ := cons_of_front_eq hstop hk (by decide)
    refine .discard ((h .expression us).bind fun as a mid ha => ?_)
    refine (takes_expect hstop (by decide)).bind fun _ _ mid hcolon => ?_
    obtain ⟨colon, rfl, hcolon⟩ := hcolon
    exact (h .expression mid).bind fun bs b _ hb => .pure (by simpa using Derives.conditional hc hquestion ha hcolon hb)
  case isFalse => exact .pure (by simpa using hc.loosen)

/-- By induction on the room that is left, every way into the grammar keeps to its place. -/
lemma keeps_descend (hstop : stop.kind = .eof) (limit room : Nat) (entry : Entry) :
    Keeps entry.place (descend stop limit room entry) := by
  induction room generalizing entry with
  | zero => exact fun ts => .current (.failAt _ _)
  | succ room ih =>
    cases entry with
    | expression => exact .conditional hstop ih
    | negation => exact .negation hstop ih
    | prefixed => exact .prefixed hstop ih

/-- What parses as a whole is derived from all tokens. -/
lemma derives_of_run_whole {limit : Nat} {rest : List Token} {e : Expr} (hstop : stop.kind = .eof)
    (hts : ∀ t ∈ ts, t.kind ≠ .eof) (h : (whole stop limit).run ts = .ok (e, rest)) :
    Derives (fun _ => True) (.expression .conditional e) ts := by
  rw [whole, StateT.run_bind] at h
  cases hdescend : (descend stop limit limit .expression).run ts with
  | error err =>
    rw [hdescend] at h
    cases h
  | ok r =>
    obtain ⟨e', mid⟩ := r
    obtain ⟨used, rfl, he⟩ := keeps_descend hstop limit limit .expression ts e' mid hdescend
    rw [hdescend] at h
    have h : (if (front stop mid).kind = .eof then (pure e' : Parser Expr)
        else failAt (front stop mid) .trailingToken).run mid = .ok (e, rest) := h
    split at h
    case isTrue hend =>
      cases h
      -- No token is an end of the input, so nothing is left of them.
      cases rest with
      | nil => rwa [List.append_nil]
      | cons t us => exact absurd hend (hts t (by simp))
    case isFalse => cases h

end Parser

/-- The parser accepts nothing but its grammar: tokens that parse are, all of them and in their order
and up to the end of the input, a derivation of the expression that they parse to. Every prefix
operator may stand before an operand at the level of prefix operators. -/
theorem Expr.ofTokens_derives {ts : List Token} {stop : Token} {maxDepth : Nat} {e : Expr}
    (hts : ∀ t ∈ ts, t.kind ≠ .eof) (hstop : stop.kind = .eof) (h : ofTokens (ts ++ [stop]) maxDepth = .ok e) :
    Derives (fun _ => True) (.expression .conditional e) ts := by
  have hkind := TokenStream.kind_stop (ts ++ [stop])
  have htokens : (TokenStream.ofTokens (ts ++ [stop])).tokens = ts :=
    TokenStream.tokens_append hts (by simpa using hstop)
  rw [ofTokens, htokens, StateT.run'] at h
  cases hrun : (Parser.whole (TokenStream.ofTokens (ts ++ [stop])).stop maxDepth).run ts with
  | error err =>
    rw [show Parser.whole _ maxDepth ts = _ from hrun] at h
    cases h
  | ok r =>
    rw [show Parser.whole _ maxDepth ts = _ from hrun] at h
    cases h
    exact Parser.derives_of_run_whole hkind hts hrun

/-- The tokens of `f(a == !b, 'x')` are a derivation of the expression that they parse to. -/
theorem Expr.ofTokens_derives_call :
    let ts : List Token := [⟨.identifier, "f", 0⟩, ⟨.lparen, "(", 1⟩, ⟨.identifier, "a", 2⟩, ⟨.operator, "==", 4⟩,
      ⟨.operator, "!", 7⟩, ⟨.identifier, "b", 8⟩, ⟨.comma, ",", 9⟩, ⟨.string, "x", 11⟩, ⟨.rparen, ")", 14⟩]
    let e : Expr := .call "f"
      [.binary .equal (.variable "a") (.unary .not (.variable "b")), .literal (.string "x")]
    (∀ t ∈ ts, t.kind ≠ .eof) ∧ (Token.eof 15).kind = .eof ∧ ofTokens (ts ++ [.eof 15]) 3 = .ok e ∧
      Derives (fun _ => True) (.expression .conditional e) ts := by
  intro ts e
  have hts : ∀ t ∈ ts, t.kind ≠ .eof := by decide
  have hparse : ofTokens (ts ++ [.eof 15]) 3 = .ok e := by
    simp only [ts, e]
    rfl
  exact ⟨hts, rfl, hparse, ofTokens_derives hts rfl hparse⟩

/-- Where `!` stands at its own level alone, nothing is derived from the tokens of `a == !b`, which
parse. -/
theorem Expr.ofTokens_negation_after_comparison :
    let ts : List Token :=
      [⟨.identifier, "a", 0⟩, ⟨.operator, "==", 2⟩, ⟨.operator, "!", 5⟩, ⟨.identifier, "b", 6⟩]
    ofTokens (ts ++ [.eof 7]) 200 = .ok (.binary .equal (.variable "a") (.unary .not (.variable "b"))) ∧
      ∀ e, ¬ Derives (fun op => op.level = .unary) (.expression .conditional e) ts := by
  refine ⟨by rfl, fun e he => ?_⟩
  have hchain := he.orderly.chain
  simp only [List.isChain_cons_cons, Derives.Follows] at hchain
  exact absurd hchain.2.1 (by decide)

end EventRules
