import EventRules.Proofs.Decimal.Sign
import EventRules.Proofs.Token.Context
import EventRules.Proofs.Token.Run

/-!
# Tokens across a line break

The tokens of two texts with a line break between them are those of the first, and behind them those
of the second, moved by what stands before it (`tokenize_lineBreak`). What the lexer remembers of the
first text is whether its last token ended an operand. That matters only to a minus sign before a
digit at the start of the second text (`Gives.afterOperand`).
-/

namespace EventRules

/-- The token is a number that is written with a minus sign. -/
def Token.IsNegative (t : Token) : Prop :=
  t.kind = .number ∧ t.text.toList.head? = some '-'

namespace Lexer

variable {l l' : Lexer} {t : Token} {k : Nat} {tail : List Char} {ts : List Token}

/-- The lexer in a longer text. -/
def embed (l : Lexer) (k : Nat) (tail : List Char) : Lexer :=
  { l with toCursor := l.toCursor.embed k tail }

/-- A token is read as it is in the shorter text. -/
lemma next_append (htail : Break tail) (hclosed : tail = [] ∨ ¬ Unclosed l'.rest) (h : l.next = (.ok t, l'))
    (hkind : t.kind ≠ .eof) : (l.embed k tail).next = (.ok (t.shift k), l'.embed k tail) := by
  obtain ⟨here, hgap, hscan, hoperand⟩ := next_ok.1 h
  obtain ⟨cs, position⟩ := here
  cases cs with
  | nil => exact (hkind ((scan_eof hscan).1 rfl)).elim
  | cons c cs =>
    refine next_ok.2 ⟨⟨c :: (cs ++ tail), k + position⟩, ?_, scan_append htail hclosed hscan, hoperand⟩
    refine (skipGap_append htail hgap).trans ?_
    exact skipGap_settled ((skipGap_stop hgap).append htail)

/-- Where a gap reaches the end, its position is the length of what was skipped. -/
lemma position_of_end {here : Cursor} (h : skipGap .blank l.position l.rest = (.ok (), here)) (hrest : here.rest = []) :
    here.position = l.position + l.rest.length := by
  obtain ⟨used, hpass, -⟩ := skipGap_ok h
  rw [hpass.position, hpass.rest, hrest, List.append_nil]

/-- At the end of a text before a line break the lexer goes on behind the line break. -/
lemma next_line {more : List Char} (h : l.next = (.ok t, l')) (hkind : t.kind = .eof) :
    (l.embed k ('\n' :: more)).next =
      (startAt more (k + (l.position + l.rest.length) + 1) l.afterOperand).next := by
  obtain ⟨here, hgap, hscan, -⟩ := next_ok.1 h
  have hrest := (scan_eof hscan).2 hkind
  have hskip := skipGap_append (k := k) (.line more) hgap
  rw [hrest, position_of_end hgap hrest] at hskip
  exact next_congr (hskip.trans (skipGap_blank rfl)) rfl

/-- A text that begins with an accessor without its closing quote has no tokens. -/
lemma Unclosed.gives_error {result : Except Error (List Token)} (h : Unclosed l.rest) (hgives : l.Gives result) :
    ∃ e, result = .error e := by
  obtain ⟨quote, rest, hrest, hquote, hmem⟩ := h
  have hbracket : l.next = (.ok ⟨.lbracket, "[", l.position⟩, startAt (quote :: rest) (l.position + 1) false) := by
    refine next_ok.2 ⟨⟨'[' :: quote :: rest, l.position⟩, ?_, ?_, rfl⟩
    · rw [hrest]
      exact skipGap_settled ⟨rfl, by simp⟩
    · rfl
  obtain ⟨e, stop, hbody⟩ := stringBody_unclosed hmem
  have hscan : scan false ⟨quote :: rest, l.position + 1⟩ = (.error e, stop) := by
    rw [scan_cons, if_pos hquote, hbody]
    rfl
  have hsettled : Settled (quote :: rest) := by
    rcases hquote with rfl | rfl <;> exact ⟨rfl, by simp⟩
  have hstring : (startAt (quote :: rest) (l.position + 1) false).next = (.error e, { toCursor := stop }) :=
    next_error (skipGap_settled hsettled) hscan
  exact ⟨e, hgives.unique (.token hbracket (by simp) (.error hstring))⟩

/-- Tokens are read as they are in a text with other text before it. -/
lemma Gives.embed (h : l.Gives (.ok ts)) : (l.embed k []).Gives (.ok (ts.map (Token.shift k))) := by
  generalize hresult : Except.ok ts = result at h
  induction h generalizing ts with
  | @token l l' t result hnext hkind _ ih =>
    cases result with
    | error e => cases hresult
    | ok more =>
      cases hresult
      exact .token (next_append .nil (.inl rfl) hnext hkind) hkind (ih rfl)
  | @eof l l' t hnext hkind =>
    cases hresult
    obtain ⟨stop, afterOperand⟩ := l'
    obtain ⟨⟨cs, position⟩, hgap, hscan, hoperand⟩ := next_ok.1 hnext
    obtain rfl : cs = [] := (scan_eof hscan).2 hkind
    cases hscan
    have hstep : (l.embed k []).next = (.ok (.eof (k + position)), startAt [] (k + position) afterOperand) :=
      next_ok.2 ⟨_, skipGap_append .nil hgap, rfl, hoperand⟩
    exact .eof hstep hkind
  | error => cases hresult

/-- The tokens of a text come before those of the text behind the line break. -/
lemma Gives.append {more : List Char} {e : Token} {result : Except Error (List Token)} (h : l.Gives (.ok (ts ++ [e])))
    (hmore : (startAt more (k + (l.position + l.rest.length) + 1)
      (ts.foldl (fun _ t => t.endsOperand) l.afterOperand)).Gives result) :
    (l.embed k ('\n' :: more)).Gives (result.map (ts.map (Token.shift k) ++ ·)) := by
  generalize htokens : Except.ok (ts ++ [e]) = tokens at h
  induction h generalizing ts with
  | @token l l' t tokens hnext hkind hrest ih =>
    cases tokens with
    | error e => cases htokens
    | ok following =>
      cases ts with
      | nil =>
        cases htokens
        exact (hrest.ne_nil rfl).elim
      | cons first ts =>
        cases htokens
        obtain ⟨used, hpass⟩ := l.next_passes
        obtain ⟨-, -, -, hoperand⟩ := next_ok.1 hnext
        have hopen : ¬ Unclosed l'.rest := fun hopen => by
          obtain ⟨e, he⟩ := hopen.gives_error hrest
          cases he
        have hend : l'.position + l'.rest.length = l.position + l.rest.length := by
          rw [hnext] at hpass
          rw [hpass.position, hpass.rest, List.length_append, Nat.add_assoc]
        rw [← hend, List.foldl_cons, ← hoperand] at hmore
        have hgives := Gives.token (next_append (.line more) (.inr hopen) hnext hkind) hkind (ih hmore rfl)
        cases result with
        | error => exact hgives
        | ok => exact hgives
  | @eof l l' t hnext hkind =>
    cases ts with
    | nil =>
      have hgives := hmore.of_next (next_line hnext hkind)
      cases result with
      | error => exact hgives
      | ok => exact hgives
    | cons first ts => cases ts <;> cases htokens
  | error => cases htokens

/-- A number is written as it was, or as the float that it stands for. -/
lemma judge_ok {start stop stop' : Cursor} {text : List Char} {isFloat : Bool} {written : String}
    (h : judge start text isFloat stop = (.ok written, stop')) :
    written = String.ofList text ∨
      ∃ x, Decimal.readFloat? text = some x ∧ (FloatParts.ofFloat x).isFinite ∧ written = Decimal.floatText x := by
  rw [judge] at h
  split at h
  next => cases h
  next =>
  split at h
  · split at h
    next => cases h
    next x hx =>
      split at h
      next hfinite =>
        cases h
        exact .inr ⟨x, hx, hfinite, rfl⟩
      next => cases h
  · split at h
    · cases h
      exact .inl rfl
    · cases h

/-- The text of a number that starts with a minus sign starts with one. -/
lemma number_minus {cs : List Char} {position : Nat} {stop : Cursor} {written : String}
    (hdigit : cs.head?.any Char.isDigit) (h : number ⟨'-' :: cs, position⟩ = (.ok written, stop)) :
    written.toList.head? = some '-' := by
  cases cs with
  | nil => cases hdigit
  | cons d cs =>
    obtain ⟨more, hmore⟩ : ∃ more, (numeral ('-' :: d :: cs)).1 = '-' :: d :: more := by
      have hd : d.isDigit := hdigit
      simp [numeral, signPart, hd]
    rw [number_eq, hmore] at h
    obtain rfl | ⟨x, hx, hfinite, rfl⟩ := judge_ok h
    · simp
    · exact Decimal.floatText_minus hdigit hx hfinite

/-- Whether an operand came before it is told from no token but a number with a minus sign. -/
lemma scan_afterOperand {here stop : Cursor} (h : scan false here = (.ok t, stop)) (ht : ¬ t.IsNegative) :
    scan true here = (.ok t, stop) := by
  obtain ⟨cs, position⟩ := here
  cases cs with
  | nil => exact h
  | cons c cs =>
    rw [scan_cons] at h ⊢
    split at h
    next hquote => rw [if_pos hquote, h]
    next hquote =>
    rw [if_neg hquote]
    split at h
    next hnumber =>
      obtain hdigit | ⟨rfl, -, hdigit⟩ := hnumber
      · rw [if_pos (.inl hdigit), h]
      · obtain ⟨written, hwritten, rfl⟩ := literal_ok h
        exact (ht ⟨rfl, number_minus hdigit hwritten⟩).elim
    next hnumber =>
      rw [if_neg fun hminus => hnumber (hminus.imp_right fun ⟨hc, _, hnext⟩ => ⟨hc, rfl, hnext⟩), h]

/-- An operand before the text changes its tokens only where they begin with a number that is written
with a minus sign. -/
lemma Gives.afterOperand {cs : List Char} {position : Nat} (h : (startAt cs position false).Gives (.ok ts))
    (hminus : ∀ t ∈ ts.head?, ¬ t.IsNegative) : (startAt cs position true).Gives (.ok ts) := by
  generalize hresult : Except.ok ts = result at h
  have step {t : Token} {l' : Lexer} (h : (startAt cs position false).next = (.ok t, l')) (ht : ¬ t.IsNegative) :
      (startAt cs position true).next = (.ok t, l') := by
    obtain ⟨here, hgap, hscan, hoperand⟩ := next_ok.1 h
    exact next_ok.2 ⟨here, hgap, scan_afterOperand hscan ht, hoperand⟩
  cases h with
  | @token _ _ t result hnext hkind hmore =>
    cases result with
    | error => cases hresult
    | ok more =>
      cases hresult
      exact .token (step hnext (hminus t rfl)) hkind hmore
  | @eof _ _ t hnext hkind =>
    cases hresult
    exact .eof (step hnext (hminus t rfl)) hkind
  | error => cases hresult

end Lexer

/-- A source of blanks and comments has no token but the end. -/
lemma tokenize_filler {filler : String} (h : Filler True filler.toList) :
    tokenize filler = .ok [Token.eof filler.length] := by
  have hend : Lexer.skipGap .blank 0 filler.toList = (.ok (), ⟨[], filler.length⟩) := by
    rw [Lexer.skipGap_filler h, Nat.zero_add, String.length_toList]
  have hnext : (Lexer.ofSource filler).next = (.ok (.eof filler.length), Lexer.startAt [] filler.length false) :=
    Lexer.next_ok.2 ⟨_, hend, rfl, rfl⟩
  exact tokenize_eq_of_gives (.eof hnext rfl)

/-- The operand state after some tokens is that of the last one. -/
lemma foldl_endsOperand (ts : List Token) :
    ts.foldl (fun _ t => t.endsOperand) false = ts.getLast?.any Token.endsOperand := by
  rcases List.eq_nil_or_concat ts with rfl | ⟨before, last, rfl⟩
  · rfl
  · simp

/-- What the lexer gives of the second text, at its place and with what it remembers of the first, comes behind the
tokens of the first. -/
lemma tokenize_behind {x y : String} {tx : List Token} {m : Nat} {result : Except Error (List Token)}
    (hx : tokenize x = .ok (tx ++ [Token.eof m]))
    (hy : (Lexer.startAt y.toList (x.length + 1) (tx.getLast?.any Token.endsOperand)).Gives result) :
    tokenize (x ++ "\n" ++ y) = result.map (tx ++ ·) := by
  have hgx := Lexer.tokenize_gives x
  rw [hx] at hgx
  have hposition : x.length + 1 = 0 + ((Lexer.ofSource x).position + (Lexer.ofSource x).rest.length) + 1 := by
    simp [Lexer.ofSource, String.length_toList]
  have hsource : Lexer.ofSource (x ++ "\n" ++ y) = (Lexer.ofSource x).embed 0 ('\n' :: y.toList) := by
    simp [Lexer.embed, Cursor.embed, Lexer.ofSource]
  have hshift : Token.shift 0 = id := funext Token.shift_zero
  rw [← foldl_endsOperand, hposition] at hy
  have hall := hgx.append hy
  rw [← hsource, hshift, List.map_id] at hall
  exact tokenize_eq_of_gives hall

/-- Two sources joined by a line break have the tokens of the first and then, shifted, those of the second,
unless a minus sign turns into an operator. -/
lemma tokenize_append {x y : String} {tx ty : List Token} {m n : Nat} (hx : tokenize x = .ok (tx ++ [Token.eof m]))
    (hy : tokenize y = .ok (ty ++ [Token.eof n]))
    (hminus : tx.getLast?.any Token.endsOperand = false ∨ ∀ first ∈ ty.head?, ¬ first.IsNegative) :
    tokenize (x ++ "\n" ++ y) = .ok (tx ++ (ty ++ [Token.eof n]).map (Token.shift (x.length + 1))) := by
  have hgy := Lexer.tokenize_gives y
  rw [hy] at hgy
  have hbehind : (Lexer.startAt y.toList (x.length + 1) (tx.getLast?.any Token.endsOperand)).Gives
      (.ok ((ty ++ [Token.eof n]).map (Token.shift (x.length + 1)))) := by
    have hplain : (Lexer.startAt y.toList (x.length + 1) false).Gives
        (.ok ((ty ++ [Token.eof n]).map (Token.shift (x.length + 1)))) := by
      have hmoved : (Lexer.ofSource y).embed (x.length + 1) [] = Lexer.startAt y.toList (x.length + 1) false := by
        simp [Lexer.embed, Cursor.embed, Lexer.ofSource, Lexer.startAt]
      rw [← hmoved]
      exact hgy.embed
    -- The first of the tokens decides: only it can be read differently behind an operand.
    cases hoperand : tx.getLast?.any Token.endsOperand with
    | false => exact hplain
    | true =>
      refine hplain.afterOperand fun first hfirst => ?_
      cases ty with
      | nil =>
        cases hfirst
        exact fun hnegative => by cases hnegative.1
      | cons second ty =>
        cases hfirst
        exact (hminus.resolve_left (by simp [hoperand])) second rfl
  exact tokenize_behind hx hbehind

/-- Two texts with a line break between them have the tokens of the first, and behind them those of
the second, moved by the characters of the first and the line break; the end of the first is gone.
Only a minus sign of a number must not come after an operand. Blanks and comments on further lines
between the two change no more than offsets. -/
theorem tokenize_lineBreak (x y : String) (tx ty : List Token) (m n : Nat) (hx : tokenize x = .ok (tx ++ [Token.eof m]))
    (hy : tokenize y = .ok (ty ++ [Token.eof n]))
    (hminus : tx = [] ∨ (∃ last ∈ tx.getLast?, last.endsOperand = false) ∨ ∀ first ∈ ty.head?, ¬ first.IsNegative) :
    tokenize (x ++ "\n" ++ y) = .ok (tx ++ (ty ++ [Token.eof n]).map (Token.shift (x.length + 1))) ∧
      ∀ filler : String, Filler True filler.toList →
        tokenize (x ++ "\n" ++ filler ++ "\n" ++ y) =
          .ok (tx ++ (ty ++ [Token.eof n]).map (Token.shift (x.length + filler.length + 2))) := by
  have hminus : tx.getLast?.any Token.endsOperand = false ∨ ∀ first ∈ ty.head?, ¬ first.IsNegative := by
    rcases hminus with rfl | ⟨last, hlast, hoperand⟩ | hminus
    · exact .inl rfl
    · rw [Option.mem_def.1 hlast]
      exact .inl hoperand
    · exact .inr hminus
  refine ⟨tokenize_append hx hy hminus, fun filler hfiller => ?_⟩
  have hmiddle := @tokenize_append x filler tx [] m filler.length hx (tokenize_filler hfiller) (.inr (by simp))
  have hlength : (x ++ "\n" ++ filler).length + 1 = x.length + filler.length + 2 := by
    rw [String.length_append, String.length_append, show "\n".length = 1 from rfl]
    omega
  rw [← hlength]
  exact tokenize_append hmiddle hy hminus

/-- No operand ends before the line break, so that the minus sign behind it belongs to the number. -/
theorem tokenize_lineBreak_index :
    tokenize "a[ // at" = .ok [⟨.identifier, "a", 0⟩, ⟨.lbracket, "[", 1⟩, Token.eof 8] ∧
      tokenize "-1]" = .ok [⟨.number, "-1", 0⟩, ⟨.rbracket, "]", 2⟩, Token.eof 3] ∧
      tokenize ("a[ // at" ++ "\n" ++ "-1]") =
        .ok [⟨.identifier, "a", 0⟩, ⟨.lbracket, "[", 1⟩, ⟨.number, "-1", 9⟩, ⟨.rbracket, "]", 11⟩, Token.eof 12] :=
  ⟨rfl, rfl, (tokenize_lineBreak "a[ // at" "-1]" [⟨.identifier, "a", 0⟩, ⟨.lbracket, "[", 1⟩]
    [⟨.number, "-1", 0⟩, ⟨.rbracket, "]", 2⟩] 8 3 rfl rfl (.inr (.inl ⟨⟨.lbracket, "[", 1⟩, rfl, rfl⟩))).1⟩

end EventRules
