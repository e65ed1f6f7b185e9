import EventRules.Proofs.Parser.Soundness
import EventRules.Proofs.Token.Run

/-!
# The limit of nesting

Two parsers that differ in how deep they may nest do the same, up to where the tighter limit is
reached. `Parser.Agrees` says so of two runs on the same tokens, and `Parser.Alike` of all runs on
fewer tokens than some number. A level asks the next deeper one only after it has taken a token, so
if the ways to the next deeper level are alike on fewer than `n` tokens, the levels are alike on fewer
than `n + 1`. An induction on the room for nesting goes on from there: once for two limits, and once
for a limit that is larger than the number of tokens, which is never reached.
-/

namespace EventRules

/-- The error that something is nested deeper than a limit. -/
def Error.TooDeep (limit : Nat) (err : Error) : Prop :=
  ∃ token position, err = .parse token position (.tooDeep limit)

namespace Parser

variable {α β : Type} {E : Error → Prop} {n : Nat} {stop t : Token} {ts : List Token} {x y : Parser α}
  {item item' operand operand' : Parser Expr} {deeper deeper' : Entry → Parser Expr}

/-- The runs of two parsers on some tokens are the same and do not fail for the depth of nesting, or
the first one fails with an error of `E`. -/
inductive Agrees (E : Error → Prop) (x y : Parser α) (ts : List Token) : Prop
  | ok {a : α} {rest : List Token} : x.run ts = .ok (a, rest) → y.run ts = .ok (a, rest) → rest.length ≤ ts.length →
    Agrees E x y ts
  | error {err : Error} : x.run ts = .error err → y.run ts = .error err → (∀ limit, ¬ err.TooDeep limit) →
    Agrees E x y ts
  | refused {err : Error} : x.run ts = .error err → E err → Agrees E x y ts

namespace Agrees

/-- A result that is given at once is the same. -/
lemma pure (a : α) : Agrees E (Pure.pure a : Parser α) (Pure.pure a) ts :=
  .ok rfl rfl (Nat.le_refl _)

/-- The same failure is allowed if it is none for the depth of nesting. -/
lemma failAt {fault : SyntaxFault} (t : Token) (h : ∀ limit, fault ≠ .tooDeep limit) :
    Agrees E (failAt t fault : Parser α) (failAt t fault) ts := by
  refine .error rfl rfl ?_
  rintro limit ⟨_, _, heq⟩
  cases heq
  exact h limit rfl

/-- Sequences agree where their steps do, the later ones on no more tokens than the first. -/
lemma bind {f g : α → Parser β} (h : Agrees E x y ts)
    (hf : ∀ a rest, rest.length ≤ ts.length → Agrees E (f a) (g a) rest) : Agrees E (x >>= f) (y >>= g) ts := by
  have failed {z : Parser α} {k : α → Parser β} {err : Error} (hz : z.run ts = .error err) :
      (z >>= k).run ts = .error err := by
    rw [StateT.run_bind, hz]
    rfl
  cases h with
  | @ok a mid hx hy hlength =>
    have onward {z : Parser α} {k : α → Parser β} (hz : z.run ts = .ok (a, mid)) :
        (z >>= k).run ts = (k a).run mid := by
      rw [StateT.run_bind, hz]
      rfl
    cases hf a mid hlength with
    | ok hx' hy' hlength' =>
      exact .ok ((onward hx).trans hx') ((onward hy).trans hy') (Nat.le_trans hlength' hlength)
    | error hx' hy' hdepth => exact .error ((onward hx).trans hx') ((onward hy).trans hy') hdepth
    | refused hx' herr => exact .refused ((onward hx).trans hx') herr
  | error hx hy hdepth => exact .error (failed hx) (failed hy) hdepth
  | refused hx herr => exact .refused (failed hx) herr

/-- Whether parsers agree depends on nothing but what their runs come to. -/
lemma of_run {x' y' : Parser α} {us : List Token} (h : Agrees E x y us) (hx : x'.run ts = x.run us)
    (hy : y'.run ts = y.run us) (hlength : us.length ≤ ts.length) : Agrees E x' y' ts := by
  cases h with
  | ok hx' hy' hrest => exact .ok (hx.trans hx') (hy.trans hy') (Nat.le_trans hrest hlength)
  | error hx' hy' hdepth => exact .error (hx.trans hx') (hy.trans hy') hdepth
  | refused hx' herr => exact .refused (hx.trans hx') herr

/-- To look at all tokens changes nothing. -/
lemma get {f g : List Token → Parser α} (h : Agrees E (f ts) (g ts) ts) :
    Agrees E (MonadState.get >>= f) (MonadState.get >>= g) ts :=
  h.of_run rfl rfl (Nat.le_refl _)

/-- To look at the token at the front changes nothing. -/
lemma current {f g : Token → Parser α} (h : Agrees E (f (front stop ts)) (g (front stop ts)) ts) :
    Agrees E (current stop >>= f) (current stop >>= g) ts :=
  get h

/-- What is missing is missing for both. -/
lemma missing (what : Expected) : Agrees E (missing stop what : Parser α) (missing stop what) ts :=
  current (failAt _ nofun)

/-- To go on with fewer tokens is allowed. -/
lemma set {rest : List Token} {f g : PUnit → Parser α} (hlength : rest.length ≤ ts.length)
    (h : Agrees E (f ⟨⟩) (g ⟨⟩) rest) : Agrees E (MonadStateOf.set rest >>= f) (MonadStateOf.set rest >>= g) ts :=
  h.of_run rfl rfl hlength

/-- To take a token leaves no more than there were. -/
lemma advance {f g : Token → Parser α} (h : Agrees E (f (front stop ts)) (g (front stop ts)) ts.tail) :
    Agrees E (advance stop >>= f) (advance stop >>= g) ts := by
  refine h.of_run rfl rfl ?_
  rw [List.length_tail]
  exact Nat.sub_le _ _

/-- To take a token without a look at it leaves no more than there were. -/
lemma discard {f g : Unit → Parser α} (h : Agrees E (f ()) (g ()) ts.tail) :
    Agrees E (Functor.discard (Parser.advance stop) >>= f) (Functor.discard (Parser.advance stop) >>= g) ts :=
  show Agrees E (Parser.advance stop >>= fun _ => f ()) (Parser.advance stop >>= fun _ => g ()) ts from advance h

/-- What is expected does not depend on the depth. -/
lemma expect {kind : TokenKind} (what : Expected) : Agrees E (expect stop kind what) (expect stop kind what) ts := by
  refine .current ?_
  split
  · exact .discard (.pure ())
  · exact .missing what

/-- Operators do not depend on the depth. -/
lemma operator? {op? : String → Option BinaryOp} : Agrees E (operator? stop op?) (operator? stop op?) ts := by
  refine .current ?_
  split
  · exact .discard (.pure _)
  · exact .pure _

/-- Keys do not depend on the depth. -/
lemma mapKey : Agrees E (mapKey stop) (mapKey stop) ts := by
  refine .current ?_
  split
  case h_4 => exact .missing _
  all_goals exact .discard (.pure _)

end Agrees

/-- Parsers agree on whatever tokens, if there are fewer than `n`. -/
def Alike (E : Error → Prop) (n : Nat) (x y : Parser α) : Prop :=
  ∀ ts, ts.length < n → Agrees E x y ts

namespace Alike

/-- Further operands are read alike if one is, by induction on the fuel. -/
lemma chainRest {op? : String → Option BinaryOp} (h : Alike E n operand operand') (fuel : Nat) (left : Expr) :
    Alike E n (chainRest stop op? operand fuel left) (chainRest stop op? operand' fuel left) := by
  induction fuel generalizing left with
  | zero => exact fun _ _ => .pure left
  | succ fuel ih =>
    intro ts hts
    refine Agrees.operator?.bind fun found mid hmid => ?_
    split
    · exact .pure left
    · exact (h mid (Nat.lt_of_le_of_lt hmid hts)).bind fun right rest hrest => ih _ rest (by omega)

/-- A chain is read alike if its operands are. -/
lemma chain {op? : String → Option BinaryOp} (h : Alike E n operand operand') :
    Alike E n (chain stop op? operand) (chain stop op? operand') := by
  intro ts hts
  exact (h ts hts).bind fun left mid hmid => .get (h.chainRest _ left mid (Nat.lt_of_le_of_lt hmid hts))

/-- Further items are read alike if one is. -/
lemma delimitedRest {close : TokenKind} {what : Expected} (h : Alike E n item item') (fuel : Nat) :
    Alike E n (delimitedRest stop item close what fuel) (delimitedRest stop item' close what fuel) := by
  induction fuel with
  | zero => exact fun _ _ => .missing what
  | succ fuel ih =>
    intro ts hts
    refine .current ?_
    split
    · have htail : ts.tail.length < n := by
        rw [List.length_tail]
        omega
      refine .discard ((h ts.tail htail).bind fun next mid hmid => ?_)
      exact (ih mid (Nat.lt_of_le_of_lt hmid htail)).bind fun _ _ _ => .pure _
    · exact (Agrees.expect what).bind fun _ _ _ => .pure _

/-- Items between delimiters are read alike if one is. -/
lemma delimited {close : TokenKind} {what : Expected} (h : Alike E n item item') :
    Alike E n (delimited stop item close what) (delimited stop item' close what) := by
  intro ts hts
  refine .current ?_
  split
  · exact .discard (.pure _)
  · refine (h ts hts).bind fun first mid hmid => .get ?_
    exact (h.delimitedRest _ mid (Nat.lt_of_le_of_lt hmid hts)).bind fun _ _ _ => .pure _

/-- An entry of a map is read alike if its value is. -/
lemma mapEntry (h : Alike E n item item') : Alike E n (mapEntry stop item) (mapEntry stop item') := by
  intro ts hts
  refine Agrees.mapKey.bind fun key mid hmid => (Agrees.expect _).bind fun _ rest hrest => ?_
  exact (h rest (by omega)).bind fun _ _ _ => .pure _

/-- Further entries are read alike if their values are. -/
lemma mapRest (h : Alike E n item item') (fuel : Nat) :
    Alike E n (mapRest stop item fuel) (mapRest stop item' fuel) := by
  induction fuel with
  | zero => exact fun _ _ => .missing _
  | succ fuel ih =>
    intro ts hts
    refine .current ?_
    split
    · have htail : ts.tail.length < n := by
        rw [List.length_tail]
        omega
      refine .discard ((h.mapEntry ts.tail htail).bind fun next mid hmid => ?_)
      exact (ih mid (Nat.lt_of_le_of_lt hmid htail)).bind fun _ _ _ => .pure _
    · exact (Agrees.expect _).bind fun _ _ _ => .pure _

/-- A map is read alike if the values in it are. -/
lemma mapEntries (h : Alike E n item item') : Alike E n (mapEntries stop item) (mapEntries stop item') := by
  intro ts hts
  refine .current ?_
  split
  · exact .discard (.pure _)
  · refine (h.mapEntry ts hts).bind fun first mid hmid => .get ?_
    exact (h.mapRest _ mid (Nat.lt_of_le_of_lt hmid hts)).bind fun _ _ _ => .pure _

/-- A conditional in words is read alike if its parts are. -/
lemma conditionalWords (h : Alike E n item item') :
    Alike E n (conditionalWords stop item) (conditionalWords stop item') := by
  intro ts hts
  refine (h ts hts).bind fun condition mid hmid => .current ?_
  split
  · exact .missing _
  · have htail : mid.tail.length < n := by
      rw [List.length_tail]
      omega
    refine .discard ((h mid.tail htail).bind fun consequence rest hrest => .current ?_)
    split
    · have hlast : rest.tail.length < n := by
        rw [List.length_tail]
        omega
      exact .discard ((h rest.tail hlast).bind fun _ _ _ => .pure _)
    · exact .pure _

/-- What is nested in a primary comes after a token of the primary. -/
lemma primary (hstop : stop.kind = .eof) (h : Alike E n item item') :
    Alike E (n + 1) (primary stop item) (primary stop item') := by
  intro ts hts
  -- Wherever the parser goes deeper here it has taken a token, so fewer than the bound are left.
  have below {t : Token} {us : List Token} (heq : ts = t :: us) : us.length < n := by
    subst heq
    exact Nat.lt_of_succ_lt_succ hts
  refine .current ?_
  split
  case h_1 =>
    refine .discard ?_
    split
    · exact .pure _
    · exact .failAt _ nofun
  case h_2 => exact .discard (.pure _)
  case h_3 hk =>
    obtain ⟨t, us, rfl, -⟩ := cons_of_front_eq hstop hk (by decide)
    refine .discard ((h us (below rfl)).bind fun e mid hmid => ?_)
    exact (Agrees.expect _).bind fun _ _ _ => .pure e
  case h_4 hk =>
    obtain ⟨t, us, rfl, -⟩ := cons_of_front_eq hstop hk (by decide)
    exact .discard ((h.delimited us (below rfl)).bind fun _ _ _ => .pure _)
  case h_5 hk =>
    obtain ⟨t, us, rfl, -⟩ := cons_of_front_eq hstop hk (by decide)
    exact .discard ((h.mapEntries us (below rfl)).bind fun _ _ _ => .pure _)
  case h_6 hk =>
    obtain ⟨t, us, rfl, -⟩ := cons_of_front_eq hstop hk (by decide)
    refine .advance ?_
    split
    case h_4 => exact h.conditionalWords us (below rfl)
    all_goals exact .pure _
  case h_7 => exact .missing _
  case h_8 => exact .failAt _ nofun

/-- A call takes two tokens before its arguments, so that these are read alike. -/
lemma call (hstop : stop.kind = .eof) (h : Alike E n item item') :
    Alike E (n + 1) (call stop item) (call stop item') := by
  intro ts hts
  refine .get ?_
  rcases ts with _ | ⟨name, _ | ⟨paren, us⟩⟩
  · exact h.primary hstop _ hts
  · exact h.primary hstop _ hts
  · show Agrees E (ite _ _ _) (ite _ _ _) _
    split
    · have hus : us.length < n := by
        simp only [List.length_cons] at hts
        omega
      refine .set (by simp only [List.length_cons]; omega) ?_
      exact (h.delimited us hus).bind fun _ _ _ => .pure _
    · exact h.primary hstop _ hts

/-- A prefix operator takes a token before it goes deeper. -/
lemma prefixed (hstop : stop.kind = .eof) (h : ∀ entry, Alike E n (deeper entry) (deeper' entry)) :
    Alike E (n + 1) (prefixed stop deeper) (prefixed stop deeper') := by
  intro ts hts
  refine .current ?_
  split
  case h_1 op ho =>
    split at ho
    case isTrue hk =>
      obtain ⟨t, us, rfl, -⟩ := cons_of_front_eq hstop hk (by decide)
      exact .discard ((h .prefixed us (Nat.lt_of_succ_lt_succ hts)).bind fun _ _ _ => .pure _)
    case isFalse => cases ho
  case h_2 => exact (h .expression).call hstop ts hts

/-- A negation takes a token before it goes deeper. -/
lemma negation (hstop : stop.kind = .eof) (h : ∀ entry, Alike E n (deeper entry) (deeper' entry)) :
    Alike E (n + 1) (negation stop deeper) (negation stop deeper') := by
  intro ts hts
  refine .current ?_
  split
  case isTrue hsign =>
    obtain ⟨t, us, rfl, -⟩ := cons_of_front_eq hstop (Token.isOperator_iff.1 hsign).1 (by decide)
    exact .discard ((h .negation us (Nat.lt_of_succ_lt_succ hts)).bind fun _ _ _ => .pure _)
  case isFalse => exact (Alike.prefixed hstop h).chain.chain.chain ts hts

/-- A conditional in signs takes its question mark before it goes deeper. -/
lemma conditional (hstop : stop.kind = .eof) (h : ∀ entry, Alike E n (deeper entry) (deeper' entry)) :
    Alike E (n + 1) (conditional stop deeper) (conditional stop deeper') := by
  intro ts hts
  have hdisjunction : Alike E (n + 1) (disjunction stop deeper) (disjunction stop deeper') :=
    (Alike.negation hstop h).chain.chain
  refine (hdisjunction ts hts).bind fun condition mid hmid => .current ?_
  split
  case isTrue hquestion =>
    obtain ⟨t, us, rfl, -⟩ := cons_of_front_eq hstop (Token.isOperator_iff.1 hquestion).1 (by decide)
    rw [List.length_cons] at hmid
    refine .discard ((h .expression us (by omega)).bind fun consequence rest hrest => ?_)
    refine (Agrees.expect _).bind fun _ rest' hrest' => ?_
    exact (h .expression rest' (by omega)).bind fun _ _ _ => .pure _
  case isFalse => exact .pure condition

/-- One level is read alike on one token more than the levels below. -/
lemma descend_succ {limit limit' room room' : Nat} (hstop : stop.kind = .eof)
    (h : ∀ entry, Alike E n (descend stop limit room entry) (descend stop limit' room' entry)) (entry : Entry) :
    Alike E (n + 1) (descend stop limit (room + 1) entry) (descend stop limit' (room' + 1) entry) := by
  cases entry with
  | expression => exact .conditional hstop h
  | negation => exact .negation hstop h
  | prefixed => exact .prefixed hstop h

/-- With more room a parser does the same, if it does not run out of the room it had. -/
lemma descend (hstop : stop.kind = .eof) (limit limit' : Nat) {room room' : Nat} (hroom : room ≤ room')
    (entry : Entry) (n : Nat) :
    Alike (Error.TooDeep limit) n (descend stop limit room entry) (descend stop limit' room' entry) := by
  induction room generalizing room' entry n with
  | zero => exact fun ts _ => .refused rfl ⟨_, _, rfl⟩
  | succ room ih =>
    obtain ⟨room', rfl⟩ := Nat.exists_eq_add_of_lt hroom
    have hless : room ≤ room + room' := Nat.le_add_right _ _
    intro ts hts
    exact descend_succ hstop (fun entry => ih hless entry n) entry ts (Nat.lt_succ_of_lt hts)

/-- Where there is room for more levels than tokens, no run fails for the depth of nesting. -/
lemma descend_self (hstop : stop.kind = .eof) (limit room : Nat) (entry : Entry) :
    Alike (fun _ => False) room (Parser.descend stop limit room entry) (Parser.descend stop limit room entry) := by
  induction room generalizing entry with
  | zero => exact fun ts hts => absurd hts (Nat.not_lt_zero _)
  | succ room ih => exact descend_succ hstop ih entry

end Alike

/-- A whole expression takes all tokens under both limits or under none. -/
lemma Agrees.whole {limit limit' : Nat}
    (h : Agrees E (descend stop limit limit .expression) (descend stop limit' limit' .expression) ts) :
    Agrees E (whole stop limit) (whole stop limit') ts := by
  refine h.bind fun e mid _ => .current ?_
  split
  · exact .pure e
  · exact .failAt _ nofun

end Parser

namespace Expression

/-- The runs of the parser of whole expressions on some tokens agree under two limits. -/
def AgreesOn (E : Error → Prop) (limit limit' : Nat) (tokens : List Token) : Prop :=
  let stream := TokenStream.ofTokens tokens
  Parser.Agrees E (Parser.whole stream.stop limit) (Parser.whole stream.stop limit') stream.tokens

variable {E : Error → Prop} {source : String} {limit limit' : Nat}

/-- Where the runs agree, a source parses to the same under both limits and does not fail for its
nesting, or it is refused under the first. -/
lemma parse_cases (h : ∀ tokens, tokenize source = .ok tokens → AgreesOn E limit limit' tokens) :
    (parse source limit = parse source limit' ∧ ∀ err, parse source limit = .error err → ∀ n, ¬ err.TooDeep n) ∨
      ∃ err, parse source limit = .error err ∧ E err := by
  unfold parse
  cases htokens : tokenize source with
  | error err =>
    refine .inl ⟨rfl, ?_⟩
    rintro _ ⟨⟩ n ⟨token, position, rfl⟩
    obtain ⟨_, _, _, hlex⟩ := tokenize_error_lex htokens
    cases hlex
  | ok tokens =>
    simp only [Parser.ok_bind, Expr.ofTokens_eq]
    cases h tokens htokens with
    | ok hx hy _ =>
      rw [hx, hy]
      refine .inl ⟨rfl, fun err herr => ?_⟩
      cases herr
    | error hx hy hdepth =>
      rw [hx, hy]
      refine .inl ⟨rfl, ?_⟩
      rintro _ ⟨⟩
      exact hdepth
    | refused hx herr =>
      rw [hx]
      exact .inr ⟨_, rfl, herr⟩

/-- A higher limit agrees with a lower one, up to where the lower one refuses. -/
lemma agreesOn_of_le (h : limit ≤ limit') (tokens : List Token) : AgreesOn (Error.TooDeep limit) limit limit' tokens :=
  .whole (Parser.Alike.descend (TokenStream.kind_stop tokens) limit limit' h .expression _ _ (Nat.lt_succ_self _))

/-- The end of the input is a token of every source, so there are fewer before it. -/
lemma agreesOn_of_length {tokens : List Token} (htokens : tokenize source = .ok tokens)
    (hlength : tokens.length ≤ limit) : AgreesOn (fun _ => False) limit limit tokens := by
  obtain ⟨before, n, rfl, hbefore⟩ := tokenize_ends htokens
  rw [List.length_append, List.length_singleton] at hlength
  refine .whole ?_
  rw [TokenStream.tokens_append hbefore (by simp [Token.eof])]
  exact Parser.Alike.descend_self (TokenStream.kind_stop _) limit limit .expression before hlength

/-- The limit of nesting is a threshold, and has no other effect. Under a tighter limit a source parses
as it does under a looser one, to the same expression or with the same error, or it is refused for
being nested deeper than the tighter limit. What parses under a limit parses to the same under every
looser one. Under a limit that is larger than the number of tokens before the end of the input nothing
is refused for its nesting. -/
theorem parse_limit (source : String) :
    (∀ n m, n ≤ m → parse source n = parse source m ∨ ∃ err, parse source n = .error err ∧ err.TooDeep n) ∧
    (∀ n m x, n ≤ m → parse source n = .ok x → parse source m = .ok x) ∧
    ∀ n, (∀ tokens, tokenize source = .ok tokens → tokens.length ≤ n) →
      ∀ err, parse source n = .error err → ∀ limit, ¬ err.TooDeep limit := by
  have hthreshold (n m : Nat) (hnm : n ≤ m) :
      parse source n = parse source m ∨ ∃ err, parse source n = .error err ∧ err.TooDeep n :=
    (parse_cases fun tokens _ => agreesOn_of_le hnm tokens).imp_left And.left
  refine ⟨hthreshold, fun n m x hnm hx => ?_, fun n hn => ?_⟩
  · rcases hthreshold n m hnm with heq | ⟨err, herr, -⟩
    · exact heq.symm.trans hx
    · cases hx.symm.trans herr
  · have hroom (tokens : List Token) (htokens : tokenize source = .ok tokens) :
        AgreesOn (fun _ => False) n n tokens :=
      agreesOn_of_length htokens (hn tokens htokens)
    rcases parse_cases hroom with ⟨-, hdepth⟩ | ⟨_, -, ⟨⟩⟩
    exact hdepth

/-- A negation, two pairs of parentheses and the expression itself are four levels. -/
theorem parse_limit_parentheses :
    let source := "!((a))"
    let x : Expression := ⟨source, .unary .not (.variable "a")⟩
    3 ≤ 4 ∧ (∃ err, parse source 3 = .error err ∧ err.TooDeep 3) ∧
      4 ≤ 200 ∧ parse source 4 = .ok x ∧ parse source 200 = .ok x ∧
      (∀ tokens, tokenize source = .ok tokens → tokens.length ≤ 7) ∧
      ∀ err, parse source 7 = .error err → ∀ limit, ¬ err.TooDeep limit := by
  intro source x
  have htokens : tokenize source = .ok [⟨.operator, "!", 0⟩, ⟨.lparen, "(", 1⟩, ⟨.lparen, "(", 2⟩,
      ⟨.identifier, "a", 3⟩, ⟨.rparen, ")", 4⟩, ⟨.rparen, ")", 5⟩, .eof 6] := by decide +kernel
  have hfour : parse source 4 = .ok x := by
    rw [parse, htokens]
    rfl
  have hlength (tokens : List Token) (h : tokenize source = .ok tokens) : tokens.length ≤ 7 := by
    cases htokens.symm.trans h
    decide
  obtain ⟨hthreshold, hlooser, hdepth⟩ := parse_limit source
  have hthree : parse source 3 ≠ parse source 4 := by
    rw [hfour, parse, htokens]
    nofun
  refine ⟨by decide, (hthreshold 3 4 (by decide)).resolve_left hthree, by decide, hfour,
    hlooser 4 200 x (by decide) hfour, hlength, hdepth 7 hlength⟩

end Expression

end EventRules
