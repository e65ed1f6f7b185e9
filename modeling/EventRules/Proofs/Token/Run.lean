import EventRules.Proofs.Token.Readers

/-!
# Runs of a lexer

One call of a lexer passes over filler and then over one token, or up to an error (`Lexer.Steps`,
`next_steps`). Reading all tokens is to call the lexer up to the end of the input or an error
(`Lexer.Gives`). It ends, since every token takes a character, and what it gives is what `tokenize`
does (`tokenize_gives`, `tokenize_eq_of_gives`).
-/

namespace EventRules

namespace Lexer

variable {l l' : Lexer} {t : Token} {e : Error} {ts : List Token}

/-- The lexer at the start of a text that stands somewhere in a source. -/
def startAt (cs : List Char) (position : Nat) (afterOperand : Bool) : Lexer :=
  { rest := cs, position := position, afterOperand := afterOperand }

/-- What one call of a lexer does. -/
inductive Steps (l : Lexer) : Except Error Token × Lexer → Prop
  | token {t : Token} {gap used : List Char} {c : Char} {here : Cursor} {l' : Lexer} : t.kind ≠ .eof →
    Filler False gap → Cursor.Passes gap l.toCursor here → t.offset = here.position →
    Cursor.Passes (c :: used) here l'.toCursor → Steps l (.ok t, l')
  | eof {t : Token} {l' : Lexer} : t = .eof l'.position → Filler True l.rest →
    Cursor.Passes l.rest l.toCursor l'.toCursor → l'.rest = [] → Steps l (.ok t, l')
  | error {e : Error} {used : List Char} {l' : Lexer} : e.PointsInto l.toCursor →
    Cursor.Passes used l.toCursor l'.toCursor → Steps l (.error e, l')

/-- A call of the lexer is a step over filler and a token. -/
lemma next_steps (l : Lexer) : l.Steps l.next := by
  rw [next]
  split
  next e stop h =>
    obtain ⟨hpass, ⟨_, hgap, _⟩ | hpoints⟩ := skipGap_error h
    · cases hgap
    · exact .error hpoints hpass
  next here h =>
    obtain ⟨gap, hpass, hgap⟩ := skipGap_ok h
    have hscan := scan_scanned l.afterOperand here
    split
    next e stop hstop =>
      rw [hstop] at hscan
      cases hscan with
      | error hpoints hused => exact .error (hpoints.of_passes hpass) (hpass.trans hused)
    next t stop hstop =>
      rw [hstop] at hscan
      cases hscan with
      | eof hrest =>
        have hall : l.rest = gap := by rw [show l.rest = gap ++ here.rest from hpass.rest, hrest, List.append_nil]
        rw [← hall] at hpass hgap
        exact .eof rfl (hgap.mono fun _ => trivial) hpass hrest
      | token hkind hoffset hused =>
        have hmore : here.rest ≠ [] := by simp [hused.rest]
        exact .token hkind (hgap.mono hmore) hpass hoffset hused

/-- A call of the lexer passes a part of the text, even if it fails. -/
lemma next_passes (l : Lexer) : ∃ used, Cursor.Passes used l.toCursor l.next.2.toCursor := by
  have h := l.next_steps
  generalize l.next = result at h
  cases h with
  | token _ _ hgap _ hused => exact ⟨_, hgap.trans hused⟩
  | eof _ _ hpass _ => exact ⟨_, hpass⟩
  | error _ hpass => exact ⟨_, hpass⟩

/-- A call that gives a token passes over what lies before the token, and reads it. -/
lemma next_ok : l.next = (.ok t, l') ↔ ∃ here, skipGap .blank l.position l.rest = (.ok (), here) ∧
    scan l.afterOperand here = (.ok t, l'.toCursor) ∧ l'.afterOperand = t.endsOperand := by
  rw [next]
  constructor
  · intro h
    split at h
    next => cases h
    next here hgap =>
      split at h
      next => cases h
      next hscan =>
        cases h
        exact ⟨here, hgap, hscan, rfl⟩
  · rintro ⟨here, hgap, hscan, hoperand⟩
    rw [hgap]
    simp only [hscan, ← hoperand]

/-- An error behind the filler leaves the lexer where the reader stopped. -/
lemma next_error {here stop : Cursor} (hgap : skipGap .blank l.position l.rest = (.ok (), here))
    (hscan : scan l.afterOperand here = (.error e, stop)) : l.next = (.error e, { l with toCursor := stop }) := by
  rw [next, hgap]
  simp only [hscan]

/-- Two lexers do the same if they skip to the same place. -/
lemma next_congr {m : Lexer} (hgap : skipGap .blank l.position l.rest = skipGap .blank m.position m.rest)
    (hoperand : l.afterOperand = m.afterOperand) : l.next = m.next := by
  rw [next, next, hgap, hoperand]

/-- The end of the input is told just where nothing is left. -/
lemma scan_eof {afterOperand : Bool} {here stop : Cursor} (h : scan afterOperand here = (.ok t, stop)) :
    here.rest = [] ↔ t.kind = .eof := by
  have hscan := scan_scanned afterOperand here
  rw [h] at hscan
  cases hscan with
  | eof hrest => simp [hrest, Token.eof]
  | token hkind _ hpass => simp [hkind, hpass.rest]

/-- To read all tokens is to call the lexer up to the end of the input, or up to an error. -/
inductive Gives : Lexer → Except Error (List Token) → Prop
  | token {l l' : Lexer} {t : Token} {result : Except Error (List Token)} : l.next = (.ok t, l') → t.kind ≠ .eof →
    Gives l' result → Gives l (result.map (t :: ·))
  | eof {l l' : Lexer} {t : Token} : l.next = (.ok t, l') → t.kind = .eof → Gives l (.ok [t])
  | error {l l' : Lexer} {e : Error} : l.next = (.error e, l') → Gives l (.error e)

/-- Every token leaves less of the text, so that there are no more calls than characters, and one
more. -/
lemma tokens_gives {fuel : Nat} (h : l.rest.length < fuel) : l.Gives (l.tokens fuel) := by
  induction fuel generalizing l with
  | zero => exact (Nat.not_lt_zero _ h).elim
  | succ fuel ih =>
    have hsteps := l.next_steps
    rw [tokens]
    generalize hnext : l.next = result at hsteps
    cases hsteps with
    | token hkind _ hgap _ hused =>
      simp only [if_neg hkind]
      refine .token hnext hkind (ih ?_)
      have hlength := congrArg List.length (hgap.trans hused).rest
      simp only [List.length_append, List.length_cons] at hlength
      omega
    | eof heof _ _ _ =>
      have hkind : Token.kind _ = .eof := congrArg Token.kind heof
      simp only [if_pos hkind]
      exact .eof hnext hkind
    | error => exact .error hnext

/-- To read all tokens is to call the lexer until it ends or fails. -/
lemma tokenize_gives (source : String) : (ofSource source).Gives (tokenize source) :=
  tokens_gives (Nat.lt_succ_self _)

/-- There is a token at least, that of the end. -/
lemma Gives.ne_nil (h : l.Gives (.ok ts)) : ts ≠ [] := by
  rintro rfl
  generalize hresult : Except.ok [] = result at h
  cases h with
  | @token _ _ t result hnext hkind hmore =>
    cases result with
    | error => cases hresult
    | ok more => cases hresult
  | eof => cases hresult
  | error => cases hresult

/-- The last token is the end of the input, and no other is. -/
lemma Gives.ends (h : l.Gives (.ok ts)) :
    ∃ before n, ts = before ++ [Token.eof n] ∧ ∀ t ∈ before, t.kind ≠ .eof := by
  generalize hresult : Except.ok ts = result at h
  induction h generalizing ts with
  | @token _ _ t result _ hkind _ ih =>
    cases result with
    | error => cases hresult
    | ok more =>
      cases hresult
      obtain ⟨before, n, rfl, hbefore⟩ := ih rfl
      exact ⟨t :: before, n, rfl, List.forall_mem_cons.2 ⟨hkind, hbefore⟩⟩
  | @eof l _ _ hnext hkind =>
    cases hresult
    have hsteps := l.next_steps
    rw [hnext] at hsteps
    cases hsteps with
    | token hother => exact absurd hkind hother
    | eof heof => exact ⟨[], _, by rw [heof, List.nil_append], nofun⟩
  | error => cases hresult

/-- A lexer fails with no error but one of its own. -/
lemma Gives.error_lex (h : l.Gives (.error e)) : ∃ offset found fault, e = .lex offset found fault := by
  generalize hresult : Except.error e = result at h
  induction h with
  | @token _ _ _ result _ _ _ ih =>
    cases result with
    | error => exact ih hresult
    | ok more => cases hresult
  | eof => cases hresult
  | @error l _ _ hnext =>
    cases hresult
    have hsteps := l.next_steps
    rw [hnext] at hsteps
    cases hsteps with
    | error hpoints =>
      obtain ⟨_, found, fault, heq, -⟩ := hpoints
      exact ⟨_, found, fault, heq⟩

/-- What a lexer gives depends on its next token alone. -/
lemma Gives.of_next {m : Lexer} {result : Except Error (List Token)} (h : m.Gives result) (hnext : l.next = m.next) :
    l.Gives result := by
  cases h with
  | token hstep hkind hmore => exact .token (hnext.trans hstep) hkind hmore
  | eof hstep hkind => exact .eof (hnext.trans hstep) hkind
  | error hstep => exact .error (hnext.trans hstep)

/-- A lexer gives one result. -/
lemma Gives.unique {result result' : Except Error (List Token)} (h : l.Gives result) (h' : l.Gives result') :
    result = result' := by
  induction h generalizing result' with
  | token hstep hkind _ ih =>
    cases h' with
    | token hstep' _ hmore =>
      cases hstep.symm.trans hstep'
      rw [ih hmore]
    | eof hstep' hkind' =>
      cases hstep.symm.trans hstep'
      exact (hkind hkind').elim
    | error hstep' => cases hstep.symm.trans hstep'
  | eof hstep hkind =>
    cases h' with
    | token hstep' hkind' _ =>
      cases hstep.symm.trans hstep'
      exact (hkind' hkind).elim
    | eof hstep' _ =>
      cases hstep.symm.trans hstep'
      rfl
    | error hstep' => cases hstep.symm.trans hstep'
  | error hstep =>
    cases h' with
    | token hstep' _ _ | eof hstep' _ => cases hstep.symm.trans hstep'
    | error hstep' =>
      cases hstep.symm.trans hstep'
      rfl

end Lexer

/-- What the lexer of a source gives are the tokens of the source. -/
lemma tokenize_eq_of_gives {source : String} {result : Except Error (List Token)}
    (h : (Lexer.ofSource source).Gives result) : tokenize source = result :=
  (Lexer.tokenize_gives source).unique h

/-- The last token is the one end of the input. -/
lemma tokenize_ends {source : String} {tokens : List Token} (h : tokenize source = .ok tokens) :
    ∃ ts n, tokens = ts ++ [Token.eof n] ∧ ∀ t ∈ ts, t.kind ≠ .eof := by
  have hgives := Lexer.tokenize_gives source
  rw [h] at hgives
  exact hgives.ends

/-- Errors of the lexer name a character and its place. -/
lemma tokenize_error_lex {source : String} {err : Error} (h : tokenize source = .error err) :
    ∃ offset found fault, err = .lex offset found fault := by
  have hgives := Lexer.tokenize_gives source
  rw [h] at hgives
  exact hgives.error_lex

end EventRules
