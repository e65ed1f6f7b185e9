import EventRules.Proofs.Parser.Indexed
import EventRules.Proofs.Parser.Run
import EventRules.Proofs.Token.LetterCase

/-!
# Positions stay inside the tokens

A parser that goes by positions (`IndexedParser`) and one that takes tokens off a list (`Parser`) go in
lockstep: where the one stands at a position, the list of the other is what is left behind it.
`IndexedParser.Tracks` says so of two runs, and `IndexedParser.Follows` of all runs from positions up to the
first end of the input. The position never goes beyond that end, since only tokens before it are taken, and
only behind a word is the next token looked at. So no position is outside the tokens, no loop is endless, and
what comes after the first end of the input does not matter.

The two parsers need not read the same tokens. Those of the second may be written in other letters, small or
capital, and it is enough that they are the same where they were not taken as words of the language.
-/

namespace EventRules

/-- The input of a parser, cut at the first end of the input, and the tokens before that end written anew, in
the same or other letters. -/
structure Recasing where
  before : List Token
  before' : List Token
  stop : Token
  after : List Token
  recased : List.Forall₂ Token.Recased before before'
  ends : stop.kind = .eof

namespace Recasing

variable {I : Recasing} {p : Nat} {role : TokenRole} {new taken : List TokenRole}

/-- All tokens of the input. -/
def tokens (I : Recasing) : List Token :=
  I.before ++ I.stop :: I.after

/-- The token at a position, the end of the input at every later one. -/
def token (I : Recasing) (p : Nat) : Token :=
  Parser.front I.stop (I.before.drop p)

/-- The token at a position as it is written anew. -/
def token' (I : Recasing) (p : Nat) : Token :=
  Parser.front I.stop (I.before'.drop p)

/-- Every token that was taken as something else than a word of the language is written as it was. -/
def Kept (I : Recasing) (taken : List TokenRole) : Prop :=
  ∀ p role, taken.reverse[p]? = some role → role ≠ .word → I.token' p = I.token p

/-- The tokens that are written anew are as many as before. -/
lemma length_eq (I : Recasing) : I.before'.length = I.before.length :=
  I.recased.length_eq.symm

/-- The first end of the input is one of its tokens. -/
lemma length_lt (I : Recasing) : I.before.length < I.tokens.length := by
  simp [tokens]

/-- What relates the tokens before the end of the input one by one relates those at every position. -/
lemma token_rel {R : Token → Token → Prop} (hstop : R I.stop I.stop) (h : List.Forall₂ R I.before I.before') (p : Nat) :
    R (I.token p) (I.token' p) := by
  have hdrop := List.forall₂_drop p h
  rw [token, token']
  generalize I.before.drop p = ts, I.before'.drop p = ts' at hdrop
  cases hdrop with
  | nil => exact hstop
  | cons h => exact h

/-- At every position stands the token that stood there, in the same or other letters. -/
lemma recased_token (I : Recasing) (p : Nat) : (I.token p).Recased (I.token' p) :=
  token_rel (.refl I.stop) I.recased p

/-- Up to the first end of the input the token at a position is the one in the list. -/
lemma tokens_getElem? (h : p ≤ I.before.length) : I.tokens[p]? = some (I.token p) := by
  rw [tokens, token, ← List.head?_drop, List.drop_append_of_le_length h]
  cases I.before.drop p <;> rfl

/-- A token that is no end of the input comes before the first one. -/
lemma lt_of_kind (h : (I.token p).kind ≠ .eof) : p < I.before.length := by
  refine Nat.lt_of_not_le fun hle => h ?_
  rw [token, List.drop_of_length_le hle]
  exact I.ends

/-- A word is no end of the input. -/
lemma kind_of_isWord {word : String} (h : (I.token p).isWord word = true) : (I.token p).kind ≠ .eof := by
  intro hkind
  simp [Token.isWord, hkind] at h

/-- An operator is no end of the input. -/
lemma kind_of_isOperator {op : String} (h : (I.token p).isOperator op = true) : (I.token p).kind ≠ .eof := by
  intro hkind
  simp [Token.isOperator, hkind] at h

/-- A word, but not the one that begins a conditional, stands at a position before a parenthesis. -/
def CallAt (I : Recasing) (p : Nat) : Prop :=
  (I.token p).kind = .identifier ∧ (I.token (p + 1)).kind = .lparen ∧ !(I.token p).isWord "if"

/-- Whether a call begins at a position is seen from two tokens. -/
instance (I : Recasing) (p : Nat) : Decidable (I.CallAt p) :=
  inferInstanceAs (Decidable (_ ∧ _ ∧ _))

/-- The name of a call comes before the end of the input. -/
lemma CallAt.lt (h : I.CallAt p) : p < I.before.length :=
  lt_of_kind (by rw [h.1]; decide)

/-- The parenthesis of a call comes before the end of the input, too. -/
lemma CallAt.lt_succ (h : I.CallAt p) : p + 1 < I.before.length :=
  lt_of_kind (by rw [h.2.1]; decide)

/-- Before the end of the input, what is left begins with the token at the position. -/
lemma drop_eq_cons (h : p < I.before.length) : I.before'.drop p = I.token' p :: I.before'.drop (p + 1) := by
  rw [token', List.drop_eq_getElem_cons (I.length_eq ▸ h)]
  rfl

/-- Tokens that are all written as they were are the same at every position. -/
lemma token'_eq (h : I.before' = I.before) (p : Nat) : I.token' p = I.token p := by
  rw [token, token', h]

/-- Tokens that are all written as they were are kept whatever is taken. -/
lemma kept_of_eq (h : I.before' = I.before) : I.Kept taken :=
  fun p _ _ _ => token'_eq h p

/-- What is kept for the tokens taken so far was kept for those that were taken first. -/
lemma Kept.of_append (h : I.Kept (new ++ taken)) : I.Kept taken := by
  intro p role hrole hword
  refine h p role ?_ hword
  rw [List.reverse_append, List.getElem?_append_left (List.getElem?_eq_some_iff.1 hrole).1]
  exact hrole

/-- A token taken as something else than a word is the same for both parsers. -/
lemma Kept.last (new : List TokenRole) (h : I.Kept (new ++ role :: taken)) (hrole : role ≠ .word) :
    I.token' taken.length = I.token taken.length := by
  refine h.of_append taken.length role ?_ hrole
  simp

end Recasing

namespace IndexedParser

variable {α β : Type} {I : Recasing} {role : TokenRole} {taken : List TokenRole} {x : IndexedParser α} {y : Parser α}
  {item operand : IndexedParser Expr} {item' operand' : Parser Expr} {deeper : Entry → IndexedParser Expr}
  {deeper' : Entry → Parser Expr} {fuel fuel' : Nat} {kind close : TokenKind} {what : Expected}

/-- Two runs from one position go in lockstep. Where the one by positions gives a result, it stops at no later
position than the first end of the input, and the other gives the same result and stops there, if the tokens
taken are the same but for words. Where the one by positions fails, the tokens write no expression, and the
other fails with that error, if all tokens are the same. -/
inductive Tracks (I : Recasing) (x : IndexedParser α) (y : Parser α) (taken : List TokenRole) : Prop
  | ok {a : α} {new : List TokenRole} : x.run taken = .ok (a, new ++ taken) →
    (new ++ taken).length ≤ I.before.length →
    (I.Kept (new ++ taken) → y.run (I.before'.drop taken.length) = .ok (a, I.before'.drop (new ++ taken).length)) →
    Tracks I x y taken
  | error {e : Error} : x.run taken = .error (.failed e) →
    (I.before' = I.before → y.run (I.before'.drop taken.length) = .error e) → Tracks I x y taken

/-- A computation that has a value goes on with it. -/
@[simp] lemma ok_bind {γ : Type} (a : α) (f : α → Except Fault γ) : (Except.ok a >>= f) = f a := rfl

/-- Runs go in lockstep from every position up to the first end of the input. -/
def Follows (I : Recasing) (x : IndexedParser α) (y : Parser α) : Prop :=
  ∀ taken : List TokenRole, taken.length ≤ I.before.length → Tracks I x y taken

namespace Tracks

/-- To give a result without reading keeps in step if the results agree on tokens that are kept. -/
lemma pure {a a' : α} (hlength : taken.length ≤ I.before.length) (h : I.Kept taken → a' = a) :
    Tracks I (Pure.pure a) (Pure.pure a') taken := by
  have hrun : (Pure.pure a : IndexedParser α).run taken = .ok (a, [] ++ taken) := rfl
  refine .ok hrun hlength fun hkept => ?_
  rw [h hkept]
  rfl

/-- The same result on both sides is the special case in which no token matters. -/
lemma pure_self (hlength : taken.length ≤ I.before.length) (a : α) : Tracks I (Pure.pure a) (Pure.pure a) taken :=
  pure hlength fun _ => rfl

/-- To fail at a token keeps in step if the token is the same where all are. -/
lemma failAt {t t' : Token} {fault : SyntaxFault} (h : I.before' = I.before → t' = t) :
    Tracks I (IndexedParser.failAt t fault : IndexedParser α) (Parser.failAt t' fault) taken := by
  refine .error rfl fun hsame => ?_
  rw [h hsame]
  rfl

/-- Sequences go in lockstep where their steps do. -/
lemma bind {f : α → IndexedParser β} {g : α → Parser β} (h : Tracks I x y taken)
    (hf : ∀ a new, (new ++ taken).length ≤ I.before.length → Tracks I (f a) (g a) (new ++ taken)) :
    Tracks I (x >>= f) (y >>= g) taken := by
  cases h with
  | @ok a new hx hlength hy =>
    have hfirst : (x >>= f).run taken = (f a).run (new ++ taken) := by
      rw [StateT.run_bind, hx]
      rfl
    have hsecond (hkept : I.Kept (new ++ taken)) :
        (y >>= g).run (I.before'.drop taken.length) = (g a).run (I.before'.drop (new ++ taken).length) := by
      rw [StateT.run_bind, hy hkept]
      rfl
    -- The first runs agree on what was taken, and the tokens of the second come in front of it.
    cases hf a new hlength with
    | @ok b more hx' hlength' hy' =>
      rw [← List.append_assoc] at hx' hlength' hy'
      refine .ok (hfirst.trans hx') hlength' fun hkept => ?_
      rw [List.append_assoc] at hkept
      exact (hsecond hkept.of_append).trans (hy' (by rwa [List.append_assoc]))
    | error hx' hy' =>
      exact .error (hfirst.trans hx') fun hsame => (hsecond (Recasing.kept_of_eq hsame)).trans (hy' hsame)
  | @error e hx hy =>
    refine .error (e := e) ?_ fun hsame => ?_
    · rw [StateT.run_bind, hx]
      rfl
    · rw [StateT.run_bind, hy hsame]
      rfl

/-- Runs that come to those of other parsers further on go in lockstep if those do. -/
lemma of_run {x' : IndexedParser α} {y' : Parser α} (new : List TokenRole) (h : Tracks I x y (new ++ taken))
    (hx : x'.run taken = x.run (new ++ taken))
    (hy : y'.run (I.before'.drop taken.length) = y.run (I.before'.drop (new ++ taken).length)) :
    Tracks I x' y' taken := by
  cases h with
  | @ok a more hx' hlength hy' =>
    rw [← List.append_assoc] at hx' hlength hy'
    exact .ok (hx.trans hx') hlength fun hkept => hy.trans (hy' hkept)
  | error hx' hy' => exact .error (hx.trans hx') fun hsame => hy.trans (hy' hsame)

/-- What the second parser finds left decides nothing for the first. -/
lemma get {g : List Token → Parser α} (h : Tracks I x (g (I.before'.drop taken.length)) taken) :
    Tracks I x (MonadState.get >>= g) taken :=
  of_run [] h rfl rfl

end Tracks

/-- A position up to the end of the input can be read. -/
lemma run_read {p : Nat} (h : p ≤ I.before.length) : (read I.tokens p).run taken = .ok (I.token p, taken) := by
  rw [read, Recasing.tokens_getElem? h]
  rfl

/-- The current token is the one at the position up to which tokens were taken. -/
lemma run_current (h : taken.length ≤ I.before.length) :
    (current I.tokens).run taken = .ok (I.token taken.length, taken) :=
  run_read h

/-- A token that is no end of the input is taken under its role. -/
lemma run_take (h : (I.token taken.length).kind ≠ .eof) : (take I.tokens role).run taken = .ok ((), role :: taken) := by
  rw [take, StateT.run_bind, run_current (Nat.le_of_lt (Recasing.lt_of_kind h))]
  exact congrArg (StateT.run · taken) (if_pos h)

namespace Tracks

/-- The first parser may look at its token again. -/
lemma look {f : Token → IndexedParser α} (hlength : taken.length ≤ I.before.length)
    (h : Tracks I (f (I.token taken.length)) y taken) : Tracks I (current I.tokens >>= f) y taken := by
  refine of_run [] h ?_ rfl
  rw [StateT.run_bind, run_current hlength]
  rfl

/-- Both parsers look at the token at the position, each as it is written for it. -/
lemma current {f : Token → IndexedParser α} {g : Token → Parser α} (hlength : taken.length ≤ I.before.length)
    (h : Tracks I (f (I.token taken.length)) (g (I.token' taken.length)) taken) :
    Tracks I (current I.tokens >>= f) (Parser.current I.stop >>= g) taken :=
  look hlength (get h)

/-- A token before the end of the input is taken by both parsers. -/
lemma advance {f : Unit → IndexedParser α} {g : Token → Parser α} (role : TokenRole)
    (hkind : (I.token taken.length).kind ≠ .eof)
    (h : (role :: taken).length ≤ I.before.length → Tracks I (f ()) (g (I.token' taken.length)) (role :: taken)) :
    Tracks I (take I.tokens role >>= f) (Parser.advance I.stop >>= g) taken := by
  have hlt := Recasing.lt_of_kind hkind
  refine of_run [role] (h hlt) ?_ ?_
  · rw [StateT.run_bind, run_take hkind]
    rfl
  · rw [StateT.run_bind, Parser.run_advance, Recasing.drop_eq_cons hlt]
    rfl

/-- A token that is taken and not looked at again is the special case of one that is taken. -/
lemma discard {f : Unit → IndexedParser α} {g : Unit → Parser α} (role : TokenRole)
    (hkind : (I.token taken.length).kind ≠ .eof)
    (h : (role :: taken).length ≤ I.before.length → Tracks I (f ()) (g ()) (role :: taken)) :
    Tracks I (take I.tokens role >>= f) (Functor.discard (Parser.advance I.stop) >>= g) taken :=
  show Tracks I (take I.tokens role >>= f) (Parser.advance I.stop >>= fun _ => g ()) taken from advance role hkind h

/-- To take a token is to go on by one position on both sides. -/
lemma take (hkind : (I.token taken.length).kind ≠ .eof) :
    Tracks I (take I.tokens role) (Functor.discard (Parser.advance I.stop)) taken := by
  have hlt := Recasing.lt_of_kind hkind
  have hrun : (IndexedParser.take I.tokens role).run taken = .ok ((), [role] ++ taken) := run_take hkind
  refine .ok hrun hlt fun _ => ?_
  rw [Parser.run_discard, Recasing.drop_eq_cons hlt]
  rfl

/-- What is missing is missing on both sides, and is told of the same token. -/
lemma missing (hlength : taken.length ≤ I.before.length) (what : Expected) :
    Tracks I (missing I.tokens what : IndexedParser α) (Parser.missing I.stop what) taken := by
  refine .current hlength ?_
  rw [(I.recased_token _).kind]
  exact .failAt fun hsame => Recasing.token'_eq hsame _

/-- A token of a kind is expected on both sides, and the kind is not changed by other letters. -/
lemma expect (hlength : taken.length ≤ I.before.length) (hkind : kind ≠ .eof) (what : Expected) :
    Tracks I (expect I.tokens kind what) (Parser.expect I.stop kind what) taken := by
  refine .current hlength ?_
  rw [(I.recased_token _).kind]
  split
  next h => exact .take (by rwa [h])
  next => exact .missing hlength what

/-- An operator that is known is taken; else nothing is. -/
lemma operator? {op? : String → Option BinaryOp} {f : Option BinaryOp → IndexedParser α}
    {g : Option BinaryOp → Parser α} (hlength : taken.length ≤ I.before.length)
    (hnone : Tracks I (f none) (g none) taken)
    (hsome : ∀ op, (TokenRole.mark :: taken).length ≤ I.before.length →
      Tracks I (f (some op)) (g (some op)) (.mark :: taken)) :
    Tracks I (operator? I.tokens op? >>= f) (Parser.operator? I.stop op? >>= g) taken := by
  simp only [IndexedParser.operator?, Parser.operator?, bind_assoc]
  refine .current hlength ?_
  by_cases hkind : (I.token taken.length).kind = .operator
  · rw [(I.recased_token _).eq (by simp [hkind]), if_pos hkind]
    cases op? (I.token taken.length).text with
    | none => exact hnone
    | some op =>
      simp only [bind_assoc, pure_bind]
      exact .discard _ (by rw [hkind]; decide) (hsome op)
  · rw [(I.recased_token _).kind, if_neg hkind, if_neg hkind]
    exact hnone

/-- The key of an entry is kept, so both parsers read the same one. -/
lemma mapKey (hlength : taken.length ≤ I.before.length) :
    Tracks I (mapKey I.tokens) (Parser.mapKey I.stop) taken := by
  refine .current hlength ?_
  rw [(I.recased_token _).kind]
  cases hkind : (I.token taken.length).kind
  case string | identifier | number =>
    refine .discard .key (by simp [hkind]) fun hlength => .pure hlength fun hkept => ?_
    rw [hkept.last [] (by decide)]
  all_goals exact .missing hlength _

end Tracks

/-- Where no token is left before the end of the input, no operator follows. -/
lemma run_operator?_end {op? : String → Option BinaryOp} (h : taken.length = I.before.length) :
    (IndexedParser.operator? I.tokens op?).run taken = .ok (none, taken) := by
  have hkind : (I.token taken.length).kind = .eof := by
    by_contra hkind
    exact Nat.ne_of_lt (Recasing.lt_of_kind hkind) h
  rw [IndexedParser.operator?, StateT.run_bind, run_current (Nat.le_of_eq h)]
  simp only [bind, Except.bind, hkind]
  rfl

/-- Behind a word there is another token before the end of the input, or that end itself. -/
lemma run_beginsCall (h : taken.length ≤ I.before.length) :
    (beginsCall I.tokens).run taken = .ok (decide (I.CallAt taken.length), taken) := by
  rw [beginsCall, StateT.run_bind, run_current h]
  by_cases hkind : (I.token taken.length).kind = .identifier
  · have hlt : taken.length < I.before.length := Recasing.lt_of_kind (by rw [hkind]; decide)
    have hlookahead : (lookahead I.tokens).run taken = .ok (I.token (taken.length + 1), taken) := run_read hlt
    simp [hkind, hlookahead, Recasing.CallAt]
  · simp [hkind, Recasing.CallAt]
    rfl

/-- The arguments of a call and the call, behind the opening parenthesis. -/
lemma run_call_function (h : I.CallAt taken.length) :
    (call I.tokens item).run taken = (delimited I.tokens item .rparen .endOfArguments >>= fun args =>
      pure (.call (I.token taken.length).text args)).run ([.mark, .function] ++ taken) := by
  have hfunction : (I.token taken.length).kind ≠ .eof := by rw [h.1]; decide
  have hmark : (I.token (TokenRole.function :: taken).length).kind ≠ .eof := by
    rw [List.length_cons, h.2.1]
    decide
  have hlength : taken.length ≤ I.before.length := Nat.le_of_lt h.lt
  simp [call, run_beginsCall hlength, h, run_current hlength, run_take hfunction, run_take hmark]

/-- Where no call begins, the parser by positions reads a primary expression. -/
lemma run_call_primary (hlength : taken.length ≤ I.before.length) (h : ¬ I.CallAt taken.length) :
    (call I.tokens item).run taken = (primary I.tokens item).run taken := by
  simp [call, run_beginsCall hlength, h]

/-- A parser that takes tokens off a list reads a call where the other one does. -/
lemma run_call_function' {p : Nat} (h : I.CallAt p) :
    (Parser.call I.stop item').run (I.before'.drop p) =
      (Parser.delimited I.stop item' .rparen .endOfArguments >>= fun args =>
        pure (.call (I.token' p).text args)).run (I.before'.drop (p + 2)) := by
  have hcall : (I.token' p).kind = .identifier ∧ (I.token' (p + 1)).kind = .lparen ∧ !(I.token' p).isWord "if" := by
    rw [(I.recased_token p).kind, (I.recased_token (p + 1)).kind, (I.recased_token p).isWord]
    exact h
  rw [Recasing.drop_eq_cons h.lt, Recasing.drop_eq_cons h.lt_succ]
  exact congrArg (StateT.run · _) (if_pos hcall)

/-- Where no call begins, the other parser reads a primary expression as well. -/
lemma run_call_primary' {p : Nat} (h : ¬ I.CallAt p) :
    (Parser.call I.stop item').run (I.before'.drop p) = (Parser.primary I.stop item').run (I.before'.drop p) := by
  rcases hrest : I.before'.drop p with _ | ⟨name, _ | ⟨paren, rest⟩⟩
  · rfl
  · rfl
  · have hname : I.token' p = name := by rw [Recasing.token', hrest]; rfl
    have hparen : I.token' (p + 1) = paren := by rw [Recasing.token', ← List.tail_drop, hrest]; rfl
    rw [Recasing.CallAt, ← (I.recased_token p).kind, ← (I.recased_token (p + 1)).kind, ← (I.recased_token p).isWord,
      hname, hparen] at h
    show (ite _ _ _ : Parser Expr).run _ = _
    rw [if_neg h]

namespace Follows

/-- Further operands go in lockstep while the fuel of each parser is enough for the tokens that are left. -/
lemma chainRest {op? : String → Option BinaryOp} (h : Follows I operand operand') (left : Expr)
    (hlength : taken.length ≤ I.before.length) (hfuel : I.before.length < taken.length + fuel)
    (hfuel' : I.before.length ≤ taken.length + fuel') :
    Tracks I (chainRest I.tokens op? operand fuel left) (Parser.chainRest I.stop op? operand' fuel' left) taken := by
  induction fuel generalizing taken left fuel' with
  | zero => omega
  | succ fuel ih =>
    cases fuel' with
    | zero =>
      refine .of_run [] (.pure_self hlength left) ?_ rfl
      rw [IndexedParser.chainRest, StateT.run_bind, run_operator?_end (Nat.le_antisymm hlength hfuel')]
      rfl
    | succ fuel' =>
      refine .operator? hlength (.pure_self hlength left) fun op hop => ?_
      refine (h _ hop).bind fun right new hnew => ih _ hnew ?_ ?_ <;>
        simp only [List.length_append, List.length_cons] <;> omega

/-- A chain of operators goes in lockstep if its operands do. -/
lemma chain {op? : String → Option BinaryOp} (h : Follows I operand operand') :
    Follows I (chain I.tokens op? operand) (Parser.chain I.stop op? operand') := by
  intro taken hlength
  refine (h taken hlength).bind fun left new hnew => .get ?_
  refine h.chainRest left hnew ?_ ?_
  · have := I.length_lt
    omega
  · rw [List.length_drop, I.length_eq]
    omega

/-- Further items go in lockstep while both parsers have more fuel than tokens are left. -/
lemma delimitedRest (h : Follows I item item') (hclose : close ≠ .eof) (what : Expected)
    (hlength : taken.length ≤ I.before.length) (hfuel : I.before.length < taken.length + fuel)
    (hfuel' : I.before.length < taken.length + fuel') :
    Tracks I (delimitedRest I.tokens item close what fuel) (Parser.delimitedRest I.stop item' close what fuel')
      taken := by
  induction fuel generalizing taken fuel' with
  | zero => omega
  | succ fuel ih =>
    obtain _ | fuel' := fuel'
    · omega
    refine .current hlength ?_
    rw [(I.recased_token _).kind]
    split
    next hcomma =>
      refine .discard .mark (by rw [hcomma]; decide) fun hlength => (h _ hlength).bind fun next new hnew => ?_
      refine (ih hnew ?_ ?_).bind fun _ _ hlength => .pure_self hlength _ <;>
        simp only [List.length_append, List.length_cons] <;> omega
    next => exact (Tracks.expect hlength hclose what).bind fun _ _ hlength => .pure_self hlength _

/-- Items between delimiters go in lockstep if the items do. -/
lemma delimited (h : Follows I item item') (hclose : close ≠ .eof) (what : Expected) :
    Follows I (delimited I.tokens item close what) (Parser.delimited I.stop item' close what) := by
  intro taken hlength
  refine .current hlength ?_
  rw [(I.recased_token _).kind]
  split
  next hkind => exact .discard _ (by rwa [hkind]) fun hlength => .pure_self hlength _
  next =>
    refine (h taken hlength).bind fun first new hnew => .get ?_
    refine (h.delimitedRest hclose what hnew ?_ ?_).bind fun _ _ hlength => .pure_self hlength _
    · have := I.length_lt
      omega
    · rw [List.length_drop, I.length_eq]
      omega

/-- An entry of a map goes in lockstep if its value does. -/
lemma mapEntry (h : Follows I item item') : Follows I (mapEntry I.tokens item) (Parser.mapEntry I.stop item') := by
  intro taken hlength
  refine (Tracks.mapKey hlength).bind fun key new hkey => ?_
  refine (Tracks.expect hkey (by decide) _).bind fun _ new' hcolon => ?_
  exact (h _ hcolon).bind fun _ _ hlength => .pure_self hlength _

/-- Further entries go in lockstep under the same bounds on the fuel. -/
lemma mapRest (h : Follows I item item') (hlength : taken.length ≤ I.before.length)
    (hfuel : I.before.length < taken.length + fuel) (hfuel' : I.before.length < taken.length + fuel') :
    Tracks I (mapRest I.tokens item fuel) (Parser.mapRest I.stop item' fuel') taken := by
  induction fuel generalizing taken fuel' with
  | zero => omega
  | succ fuel ih =>
    obtain _ | fuel' := fuel'
    · omega
    refine .current hlength ?_
    rw [(I.recased_token _).kind]
    split
    next hcomma =>
      refine .discard .mark (by rw [hcomma]; decide) fun hlength => ?_
      refine (h.mapEntry _ hlength).bind fun next new hnew => ?_
      refine (ih hnew ?_ ?_).bind fun _ _ hlength => .pure_self hlength _ <;>
        simp only [List.length_append, List.length_cons] <;> omega
    next => exact (Tracks.expect hlength (by decide) _).bind fun _ _ hlength => .pure_self hlength _

/-- A map goes in lockstep if the values of its entries do. -/
lemma mapEntries (h : Follows I item item') :
    Follows I (mapEntries I.tokens item) (Parser.mapEntries I.stop item') := by
  intro taken hlength
  refine .current hlength ?_
  rw [(I.recased_token _).kind]
  split
  next hkind => exact .discard _ (by rw [hkind]; decide) fun hlength => .pure_self hlength _
  next =>
    refine (h.mapEntry taken hlength).bind fun first new hnew => .get ?_
    refine (h.mapRest hnew ?_ ?_).bind fun _ _ hlength => .pure_self hlength _
    · have := I.length_lt
      omega
    · rw [List.length_drop, I.length_eq]
      omega

/-- A conditional in words goes in lockstep if its parts do. -/
lemma conditionalWords (h : Follows I item item') :
    Follows I (conditionalWords I.tokens item) (Parser.conditionalWords I.stop item') := by
  intro taken hlength
  refine (h taken hlength).bind fun condition new hnew => .current hnew ?_
  rw [(I.recased_token _).isWord]
  split
  next => exact .missing hnew _
  next hthen =>
    refine .discard _ (Recasing.kind_of_isWord (by simpa using hthen)) fun hlength => ?_
    refine (h _ hlength).bind fun consequence new hnew => .current hnew ?_
    rw [(I.recased_token _).isWord]
    split
    next helse =>
      refine .discard _ (Recasing.kind_of_isWord helse) fun hlength => ?_
      exact (h _ hlength).bind fun _ _ hlength => .pure_self hlength _
    next => exact .pure_self hnew _

/-- A word is not kept as it is written only where it stands for a literal or begins a conditional. -/
lemma word (h : Follows I item item') (hlength : taken.length ≤ I.before.length)
    (hkind : (I.token taken.length).kind ≠ .eof) :
    Tracks I (word I.tokens item) (Parser.word I.stop item') taken := by
  refine .look hlength ?_
  generalize hlower : Text.toLowerAscii (I.token taken.length).text = lower
  have hlower' := (I.recased_token taken.length).lower.trans hlower
  -- The words of the language are told by their small letters, which both spellings share.
  split
  case h_1 => refine .advance _ hkind fun hlength => ?_; rw [hlower']; exact .pure_self hlength _
  case h_2 => refine .advance _ hkind fun hlength => ?_; rw [hlower']; exact .pure_self hlength _
  case h_3 => refine .advance _ hkind fun hlength => ?_; rw [hlower']; exact .pure_self hlength _
  case h_4 => refine .advance _ hkind fun hlength => ?_; rw [hlower']; exact h.conditionalWords _ hlength
  case h_5 htrue hfalse hnull hif =>
    refine .advance _ hkind fun hlength => ?_
    rw [hlower']
    split
    case h_1 => exact (htrue rfl).elim
    case h_2 => exact (hfalse rfl).elim
    case h_3 => exact (hnull rfl).elim
    case h_4 => exact (hif rfl).elim
    case h_5 => exact .pure hlength fun hkept => by rw [hkept.last [] (by decide)]

/-- A primary expression goes in lockstep if what is inside of it does. -/
lemma primary (h : Follows I item item') : Follows I (primary I.tokens item) (Parser.primary I.stop item') := by
  intro taken hlength
  refine .current hlength ?_
  have hrecased := I.recased_token taken.length
  rw [hrecased.kind]
  -- The kind of the token decides, and is the same in both spellings. Numbers and strings are spelled the
  -- same.
  cases hkind : (I.token taken.length).kind
  case number =>
    rw [hrecased.eq (by rw [hkind]; decide)]
    refine .discard .mark (by rw [hkind]; decide) fun hlength => ?_
    cases Parser.numberValue? (I.token taken.length).text with
    | some v => exact .pure_self hlength _
    | none => exact .failAt fun _ => rfl
  case string =>
    rw [hrecased.eq (by rw [hkind]; decide)]
    exact .discard _ (by rw [hkind]; decide) fun hlength => .pure_self hlength _
  case lparen =>
    refine .discard .mark (by rw [hkind]; decide) fun hlength => (h _ hlength).bind fun e new hnew => ?_
    exact (Tracks.expect hnew (by decide) _).bind fun _ _ hlength => .pure_self hlength e
  case lbracket =>
    refine .discard .mark (by rw [hkind]; decide) fun hlength => ?_
    exact (h.delimited (by decide) _ _ hlength).bind fun _ _ hlength => .pure_self hlength _
  case lbrace =>
    refine .discard .mark (by rw [hkind]; decide) fun hlength => ?_
    exact (h.mapEntries _ hlength).bind fun _ _ hlength => .pure_self hlength _
  case identifier => exact h.word hlength (by rw [hkind]; decide)
  case eof => exact .missing hlength _
  all_goals exact .failAt fun hsame => Recasing.token'_eq hsame _

/-- A call goes in lockstep if its arguments do. -/
lemma call (h : Follows I item item') : Follows I (call I.tokens item) (Parser.call I.stop item') := by
  intro taken hlength
  by_cases hcall : I.CallAt taken.length
  · refine .of_run [.mark, .function] ?_ (run_call_function hcall) (run_call_function' hcall)
    have hlength : ([TokenRole.mark, .function] ++ taken).length ≤ I.before.length := hcall.lt_succ
    refine (h.delimited (by decide) _ _ hlength).bind fun args new hlength => .pure hlength fun hkept => ?_
    rw [Recasing.Kept.last (new ++ [.mark]) (by simpa using hkept) (by decide)]
  · exact .of_run [] (h.primary taken hlength) (run_call_primary hlength hcall) (run_call_primary' hcall)

/-- A prefix operator goes in lockstep if what it is applied to does. -/
lemma prefixed (h : ∀ entry, Follows I (deeper entry) (deeper' entry)) :
    Follows I (prefixed I.tokens deeper) (Parser.prefixed I.stop deeper') := by
  intro taken hlength
  refine .current hlength ?_
  by_cases hkind : (I.token taken.length).kind = .operator
  · rw [(I.recased_token _).eq (by rw [hkind]; decide), if_pos hkind]
    cases Parser.prefixOp? (I.token taken.length).text with
    | none => exact (h .expression).call taken hlength
    | some op =>
      refine .discard .mark (by rw [hkind]; decide) fun hlength => ?_
      exact (h .prefixed _ hlength).bind fun _ _ hlength => .pure_self hlength _
  · rw [(I.recased_token _).kind, if_neg hkind, if_neg hkind]
    exact (h .expression).call taken hlength

/-- A negation goes in lockstep if what it negates does. -/
lemma negation (h : ∀ entry, Follows I (deeper entry) (deeper' entry)) :
    Follows I (negation I.tokens deeper) (Parser.negation I.stop deeper') := by
  intro taken hlength
  refine .current hlength ?_
  rw [(I.recased_token _).isOperator]
  split
  next hsign =>
    refine .discard .mark (Recasing.kind_of_isOperator hsign) fun hlength => ?_
    exact (h .negation _ hlength).bind fun _ _ hlength => .pure_self hlength _
  next => exact (Follows.prefixed h).chain.chain.chain taken hlength

/-- A conditional goes in lockstep if its parts do. -/
lemma conditional (h : ∀ entry, Follows I (deeper entry) (deeper' entry)) :
    Follows I (conditional I.tokens deeper) (Parser.conditional I.stop deeper') := by
  have hdisjunction : Follows I (disjunction I.tokens deeper) (Parser.disjunction I.stop deeper') :=
    (Follows.negation h).chain.chain
  intro taken hlength
  refine (hdisjunction taken hlength).bind fun condition new hnew => .current hnew ?_
  rw [(I.recased_token _).isOperator]
  split
  next hquestion =>
    refine .discard .mark (Recasing.kind_of_isOperator hquestion) fun hlength => ?_
    refine (h .expression _ hlength).bind fun consequence new hnew => ?_
    refine (Tracks.expect hnew (by decide) _).bind fun _ new hcolon => ?_
    exact (h .expression _ hcolon).bind fun _ _ hlength => .pure_self hlength _
  next => exact .pure_self hnew condition

/-- By induction on the room that is left, the levels of the grammar go in lockstep. -/
lemma descend (limit room : Nat) (entry : Entry) :
    Follows I (descend I.tokens limit room entry) (Parser.descend I.stop limit room entry) := by
  induction room generalizing entry with
  | zero => exact fun taken hlength => .current hlength (.failAt fun hsame => Recasing.token'_eq hsame _)
  | succ room ih =>
    cases entry with
    | expression => exact .conditional ih
    | negation => exact .negation ih
    | prefixed => exact .prefixed ih

/-- A whole expression goes in lockstep, and so does the check that nothing comes after it. -/
lemma whole (limit : Nat) : Follows I (whole I.tokens limit) (Parser.whole I.stop limit) := by
  intro taken hlength
  refine (Follows.descend limit limit .expression taken hlength).bind fun e new hnew => .current hnew ?_
  rw [(I.recased_token _).kind]
  split
  next => exact .pure_self hnew e
  next => exact .failAt fun hsame => Recasing.token'_eq hsame _

end Follows

/-- Nothing but an end of the input is ever added to tokens. -/
lemma completed_append (tokens : List Token) : ∃ more, completed tokens = tokens ++ more := by
  rw [completed]
  split
  next =>
    split
    · exact ⟨[], (List.append_nil _).symm⟩
    · exact ⟨_, rfl⟩
  next h =>
    rw [List.getLast?_eq_none_iff.1 h]
    exact ⟨_, rfl⟩

/-- The completed tokens begin with the tokens of the stream and its stop token. -/
lemma completed_eq (tokens : List Token) :
    ∃ after, completed tokens = (TokenStream.ofTokens tokens).tokens ++ (TokenStream.ofTokens tokens).stop :: after := by
  cases hfind : tokens.find? (·.kind = .eof) with
  -- Without an end of the input one is put behind all tokens. Otherwise the first one is where the stream
  -- stops.
  | none =>
    have hinner : ∀ t ∈ tokens, t.kind ≠ .eof := by simpa using hfind
    have htokens : (TokenStream.ofTokens tokens).tokens = tokens := by
      simpa using @TokenStream.tokens_append tokens [] hinner (by simp)
    refine ⟨[], ?_⟩
    rw [htokens, TokenStream.ofTokens, hfind, completed]
    cases hlast : tokens.getLast? with
    | none => rw [List.getLast?_eq_none_iff.1 hlast]; rfl
    | some t => exact if_neg (hinner t (List.mem_of_getLast? hlast))
  | some t =>
    obtain ⟨hkind, before, after, rfl, hbefore⟩ := List.find?_eq_some_iff_append.1 hfind
    obtain ⟨more, hmore⟩ := completed_append (before ++ t :: after)
    refine ⟨after ++ more, ?_⟩
    rw [hmore, TokenStream.ofTokens_append (by simpa using hbefore) (by simpa using hkind) after, List.append_assoc,
      List.cons_append]

/-- A parser that goes by positions gives what the other one gives, and has no other faults. -/
lemma parse_fst (tokens : List Token) (maxDepth : Nat) :
    (parse tokens maxDepth).map Prod.fst = (Expr.ofTokens tokens maxDepth).mapError .failed := by
  obtain ⟨after, hcompleted⟩ := completed_eq tokens
  let I : Recasing :=
    { before := (TokenStream.ofTokens tokens).tokens
      before' := (TokenStream.ofTokens tokens).tokens
      stop := (TokenStream.ofTokens tokens).stop
      after := after
      recased := List.forall₂_same.2 fun t _ => .refl t
      ends := TokenStream.kind_stop tokens }
  rw [parse, hcompleted, Expr.ofTokens_eq]
  change (((whole I.tokens maxDepth).run []).map _).map _ = (((Parser.whole I.stop maxDepth).run I.before').map _).mapError _
  cases Follows.whole maxDepth [] (Nat.zero_le I.before.length) with
  | ok hx _ hy =>
    rw [hx, show (Parser.whole I.stop maxDepth).run I.before' = _ from hy (Recasing.kept_of_eq rfl)]
    rfl
  | error hx hy =>
    rw [hx, show (Parser.whole I.stop maxDepth).run I.before' = _ from hy rfl]
    rfl

/-- The parser does not look past the first end of the input, wherever that comes: tokens behind it are as good
as none. Whatever tokens it is given, also none at all or such without an end of the input, every position that
it looks at, the one behind a word included, is one of a token, no loop is endless, and it gives what the parser
that takes tokens off a list does. -/
theorem parse_inside (maxDepth : Nat) :
    (∀ before stop after, (∀ t ∈ before, t.kind ≠ .eof) → stop.kind = .eof →
      (parse (before ++ stop :: after) maxDepth).map Prod.fst = (parse (before ++ [stop]) maxDepth).map Prod.fst ∧
        Expr.ofTokens (before ++ stop :: after) maxDepth = Expr.ofTokens (before ++ [stop]) maxDepth) ∧
    ∀ tokens, (∀ position, parse tokens maxDepth ≠ .error (.outside position)) ∧
      parse tokens maxDepth ≠ .error .endless ∧
      (parse tokens maxDepth).map Prod.fst = (Expr.ofTokens tokens maxDepth).mapError .failed := by
  refine ⟨fun before stop after hbefore hstop => ?_, fun tokens => ?_⟩
  · have htokens : Expr.ofTokens (before ++ stop :: after) maxDepth = Expr.ofTokens (before ++ [stop]) maxDepth := by
      rw [Expr.ofTokens_eq, Expr.ofTokens_eq, TokenStream.ofTokens_append hbefore hstop,
        TokenStream.ofTokens_append hbefore hstop]
    exact ⟨by rw [parse_fst, parse_fst, htokens], htokens⟩
  · have hfst := parse_fst tokens maxDepth
    refine ⟨fun position h => ?_, fun h => ?_, hfst⟩ <;>
    · rw [h] at hfst
      cases hresult : Expr.ofTokens tokens maxDepth <;> rw [hresult] at hfst <;> cases hfst

/-- Behind the end of the input after `a` may stand what is no expression; a lone `!` has no operand, and no
token is looked for behind it. -/
theorem parse_inside_leftover :
    let name : Token := ⟨.identifier, "a", 0⟩
    let rest : List Token := [⟨.rparen, ")", 2⟩, ⟨.identifier, "b", 3⟩]
    let lone : List Token := [⟨.operator, "!", 4⟩]
    (∀ t ∈ [name], t.kind ≠ .eof) ∧ (Token.eof 1).kind = .eof ∧
      (parse ([name] ++ .eof 1 :: rest) 1).map Prod.fst = (parse ([name] ++ [.eof 1]) 1).map Prod.fst ∧
      parse ([name] ++ [.eof 1]) 1 = .ok (.variable "a", [.variable]) ∧
      (∀ position, parse lone 2 ≠ .error (.outside position)) ∧
      parse lone 2 = .error (.failed (.parse "" 5 (.missing .expression true))) := by
  have hname : parse [⟨.identifier, "a", 0⟩, .eof 1] 1 = .ok (.variable "a", [.variable]) := rfl
  have hlone : parse [⟨.operator, "!", 4⟩] 2 = .error (.failed (.parse "" 5 (.missing .expression true))) := rfl
  intro name rest lone
  have hbefore : ∀ t ∈ [name], t.kind ≠ .eof := by simp [name]
  exact ⟨hbefore, rfl, ((parse_inside 1).1 [name] (.eof 1) rest hbefore rfl).1, hname,
    ((parse_inside 2).2 lone).1, hlone⟩

end IndexedParser

end EventRules
