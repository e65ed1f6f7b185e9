import EventRules.Proofs.Parser.Local

/-!
# Errors at the earliest token

An error of the parser names the first token that is wrong. The tokens before it can be completed to an
expression, and no tokens that go on with it can: they fail at it, with the same error.
-/

namespace EventRules

namespace TokenStream

variable {ts more : List Token} {t stop : Token}

/-- Behind tokens before the end of the input the stream goes on with the token that comes next. -/
lemma exists_front (hts : ∀ t ∈ ts, t.kind ≠ .eof) (t : Token) (more : List Token) :
    ∃ rest, (ofTokens (ts ++ t :: more)).tokens = ts ++ rest ∧
      Parser.front (ofTokens (ts ++ t :: more)).stop rest = t := by
  by_cases hk : t.kind = .eof
  · refine ⟨[], ?_, ?_⟩
    · rw [tokens_append hts (by simpa using hk), List.append_nil]
    · rw [Parser.front_nil, stop_append hts hk]
  · refine ⟨t :: more.takeWhile (·.kind ≠ .eof), ?_, rfl⟩
    rw [ofTokens, List.takeWhile_append_of_pos (by simpa using hts)]
    simp [hk]

end TokenStream

namespace Parser

/-- The tokens stay where they are. -/
def Change.same {stop stop' : Token} (deepens : Prop) (hstop : stop.kind = .eof)
    (hstop' : stop'.kind = .eof) : Change :=
  ⟨stop, stop', id, deepens, hstop, hstop'⟩

/-- A change that changes nothing moves no token. -/
lemma Change.moved_same {stop stop' : Token} {deepens : Prop} (hstop : stop.kind = .eof) (hstop' : stop'.kind = .eof)
    (ts : List Token) : (same deepens hstop hstop').moved ts = ts :=
  List.map_id ts

variable {stop : Token} {limit limit' : Nat} {ts rest : List Token} {e : Expr} {err : Error} {c : Change}

/-- An error of the expression is one of the whole. -/
lemma run_whole_error (h : (descend stop limit limit .expression).run ts = .error err) :
    (whole stop limit).run ts = .error err := by
  rw [whole, StateT.run_bind, h]
  rfl

/-- An expression up to the end of the input is the whole. -/
lemma run_whole_ok (h : (descend stop limit limit .expression).run ts = .ok (e, rest))
    (hk : (front stop rest).kind = .eof) :
    (whole stop limit).run ts = .ok (e, rest) := by
  simp [whole, h, hk]

/-- Tokens behind an expression are an error at the first of them. -/
lemma run_whole_trailing (h : (descend stop limit limit .expression).run ts = .ok (e, rest))
    (hk : (front stop rest).kind ≠ .eof) :
    (whole stop limit).run ts = .error (errorAt (front stop rest) .trailingToken) := by
  simp only [whole, StateT.run_bind, h, ok_bind, run_current, if_neg hk]
  rfl

/-- Where a whole expression fails, some tokens are right and the one after them is wrong. -/
lemma whole_error (c : Change) (hlimit : limit ≤ limit') (hdeepens : c.deepens → limit < limit')
    (h : (whole c.stop limit).run ts = .error err) (herr : ∀ n, ¬ err.TooDeep n) :
    ∃ used rest fault, ts = used ++ rest ∧ err = errorAt (front c.stop rest) fault ∧
      (∀ rest', c.SameFront rest rest' →
        (whole c.stop' limit').run (c.moved used ++ rest') = .error (errorAt (front c.stop' rest') fault)) ∧
      (c.deepens → ∃ more e, (∀ t ∈ more, t.kind ≠ .eof) ∧
        (whole c.stop' limit').run (c.moved used ++ more) = .ok (e, [])) := by
  have hlocal := Local.descend limit limit' hlimit hdeepens .expression (c := c)
  have hend : Level.Ends .conditional (front c.stop' []) := .of_kind (by simp [c.stop'_eof])
  cases hlocal.run ts with
  | @ok e used rest hts _ hx hy =>
    by_cases hk : (front c.stop rest).kind = .eof
    · cases h.symm.trans (run_whole_ok hx hk)
    · cases h.symm.trans (run_whole_trailing hx hk)
      refine ⟨used, rest, .trailingToken, hts, rfl, fun rest' hrest => ?_, fun _ => ⟨[], e, nofun, ?_⟩⟩
      · exact run_whole_trailing (hy rest' (.inl hrest)) (hrest.kind ▸ hk)
      · exact run_whole_ok (hy [] (.inr hend)) c.stop'_eof
  | @error used rest fault hts _ hx hy hmore =>
    cases h.symm.trans (run_whole_error hx)
    refine ⟨used, rest, fault, hts, rfl, fun rest' hrest => run_whole_error (hy rest' hrest), fun hdeeper => ?_⟩
    cases used with
    -- Where nothing was taken before the error, any expression completes the tokens.
    | nil =>
      obtain ⟨more, e, hfree, hrun⟩ := hlocal.completes hdeeper
      obtain ⟨-, hrun⟩ := hrun [] hend
      rw [List.append_nil] at hrun
      exact ⟨more, e, hfree, run_whole_ok hrun c.stop'_eof⟩
    | cons t used =>
      obtain ⟨more, e, hfree, hrun⟩ := hmore hdeeper (List.cons_ne_nil t used)
      have hrun := hrun [] hend
      rw [List.append_nil] at hrun
      exact ⟨more, e, hfree, run_whole_ok hrun c.stop'_eof⟩
  | refused hx htooDeep =>
    cases h.symm.trans (run_whole_error hx)
    exact absurd htooDeep (herr _)

end Parser

namespace Expr

variable {ts : List Token} {stop : Token} {maxDepth position : Nat} {text : String} {fault : SyntaxFault}

/-- A list of tokens is refused just if the parser refuses its stream. -/
lemma ofTokens_error {tokens : List Token} {err : Error} :
    ofTokens tokens maxDepth = .error err ↔
      (Parser.whole (TokenStream.ofTokens tokens).stop maxDepth).run (TokenStream.ofTokens tokens).tokens =
        .error err := by
  rw [ofTokens_eq]
  cases (Parser.whole (TokenStream.ofTokens tokens).stop maxDepth).run (TokenStream.ofTokens tokens).tokens with
  | error => simp [Except.map]
  | ok => simp [Except.map]

/-- Behind some tokens the token that is seen next comes next. -/
lemma exists_tail (used rest : List Token) (stop : Token) :
    ∃ tail, used ++ rest ++ [stop] = used ++ Parser.front stop rest :: tail := by
  cases rest with
  | nil => exact ⟨[], by simp⟩
  | cons t rest => exact ⟨rest ++ [stop], by simp⟩

/-- At distinct offsets the token that is seen behind some tokens is told from its offset. -/
lemma offset_iff {used rest : List Token} (hoffsets : ((used ++ rest ++ [stop]).map Token.offset).Nodup) (j : Nat) :
    ((used ++ rest ++ [stop]).map Token.offset)[j]? = some (Parser.front stop rest).offset ↔ j = used.length := by
  obtain ⟨tail, htail⟩ := exists_tail used rest stop
  rw [htail] at hoffsets ⊢
  have hat : ((used ++ Parser.front stop rest :: tail).map Token.offset)[used.length]? =
      some (Parser.front stop rest).offset := by simp
  constructor
  · intro hj
    obtain ⟨hless, -⟩ := List.getElem?_eq_some_iff.1 hj
    exact (List.getElem?_inj hless hoffsets).1 (hj.trans hat.symm)
  · rintro rfl
    exact hat

/-- What the parser reads up to the end is read from the list of tokens. -/
lemma ofTokens_of_whole {e : Expr} (hts : ∀ t ∈ ts, t.kind ≠ .eof) (hstop : stop.kind = .eof)
    (h : (Parser.whole stop maxDepth).run ts = .ok (e, [])) : ofTokens (ts ++ [stop]) maxDepth = .ok e := by
  rw [ofTokens_eq, TokenStream.ofTokens_append hts hstop]
  simp only [h]
  rfl

/-- Errors come at the earliest token. Let tokens before the end of the input, at distinct offsets, fail
with an error other than that of nesting. One of them is at the offset of the error. Those before it can be
completed to tokens that parse, if nesting may be deeper; and whatever comes after it, they fail with it and
with the same error. -/
theorem ofTokens_earliest (hoffsets : ((ts ++ [stop]).map Token.offset).Nodup) (hts : ∀ t ∈ ts, t.kind ≠ .eof)
    (hstop : stop.kind = .eof) (hfault : ∀ limit, fault ≠ .tooDeep limit)
    (h : ofTokens (ts ++ [stop]) maxDepth = .error (.parse text position fault)) :
    ∃ k, (∀ j, ((ts ++ [stop]).map Token.offset)[j]? = some position ↔ j = k) ∧
      (∃ more n e, (∀ t ∈ more, t.kind ≠ .eof) ∧ ofTokens ((ts ++ [stop]).take k ++ (more ++ [stop])) n = .ok e) ∧
      ∀ more, ofTokens ((ts ++ [stop]).take (k + 1) ++ more) maxDepth = .error (.parse text position fault) := by
  have hrun := ofTokens_error.1 h
  rw [TokenStream.stop_append hts hstop, TokenStream.tokens_append hts (by simpa using hstop)] at hrun
  have hdepth (n : Nat) : ¬ Error.TooDeep n (.parse text position fault) := by
    -- An error for the depth of nesting is left out by what is assumed, since deeper nesting may be allowed
    -- later.
    rintro ⟨_, _, heq⟩
    cases heq
    exact hfault n rfl
  obtain ⟨used, rest, _, rfl, heq, -, hmore⟩ :=
    Parser.whole_error (.same True hstop hstop) (Nat.le_succ maxDepth) (fun _ => Nat.lt_succ_self _) hrun hdepth
  obtain ⟨-, rfl, -⟩ := Error.parse.inj heq
  have hused : ∀ t ∈ used, t.kind ≠ .eof := fun t ht => hts t (List.mem_append_left rest ht)
  obtain ⟨tail, htail⟩ := exists_tail used rest stop
  refine ⟨used.length, offset_iff hoffsets, ?_, fun more => ?_⟩
  · obtain ⟨more, e, hfree, hok⟩ := hmore trivial
    rw [Parser.Change.moved_same] at hok
    refine ⟨more, maxDepth + 1, e, hfree, ?_⟩
    rw [htail, List.take_left, ← List.append_assoc]
    exact ofTokens_of_whole (List.forall_mem_append.2 ⟨hused, hfree⟩) hstop hok
  · have htake : (used ++ rest ++ [stop]).take (used.length + 1) ++ more = used ++ Parser.front stop rest :: more := by
      rw [htail, List.take_length_add_append]
      simp
    obtain ⟨rest', htokens, hfront⟩ := TokenStream.exists_front hused (Parser.front stop rest) more
    rw [htake, ofTokens_error, htokens]
    -- The same tokens are right with other tokens behind the wrong one, for that is where they end.
    obtain ⟨used', rest'', fault', hsplit, heq', hfails, -⟩ :=
      Parser.whole_error (.same False hstop (TokenStream.kind_stop (used ++ Parser.front stop rest :: more)))
        (Nat.le_refl maxDepth) nofun hrun hdepth
    obtain ⟨-, hposition, -⟩ := Error.parse.inj heq'
    have hlength : used'.length = used.length := by
      have hat := (offset_iff (hsplit ▸ hoffsets) used'.length).2 rfl
      rw [← hsplit] at hat
      exact (offset_iff hoffsets used'.length).1 (hat.trans (congrArg some hposition.symm))
    obtain ⟨rfl, rfl⟩ := List.append_inj hsplit.symm hlength
    have hfails := hfails rest' hfront
    rw [Parser.Change.moved_same] at hfails
    refine hfails.trans ?_
    rw [heq']
    exact congrArg (fun t => Except.error (Parser.errorAt t fault')) hfront

/-- The call `f(a, b] ...` is right up to the bracket. -/
theorem ofTokens_earliest_call :
    let ts : List Token := [⟨.identifier, "f", 0⟩, ⟨.lparen, "(", 1⟩, ⟨.identifier, "a", 2⟩, ⟨.comma, ",", 3⟩,
      ⟨.identifier, "b", 5⟩, ⟨.rbracket, "]", 6⟩, ⟨.operator, "?", 8⟩]
    let stop := Token.eof 9
    let err : Error := .parse "]" 6 (.missing .endOfArguments false)
    ((ts ++ [stop]).map Token.offset).Nodup ∧ (∀ t ∈ ts, t.kind ≠ .eof) ∧ stop.kind = .eof ∧
      ofTokens (ts ++ [stop]) 2 = .error err ∧
      (∃ more n e, (∀ t ∈ more, t.kind ≠ .eof) ∧ ofTokens (ts.take 5 ++ (more ++ [stop])) n = .ok e) ∧
      ∀ more, ofTokens (ts.take 6 ++ more) 2 = .error err := by
  intro ts stop err
  have hoffsets : ((ts ++ [stop]).map Token.offset).Nodup := by decide
  have hts : ∀ t ∈ ts, t.kind ≠ .eof := by decide
  have hparse : ofTokens (ts ++ [stop]) 2 = .error err := by
    simp only [ts, stop, err]
    rfl
  obtain ⟨k, hk, hcompleted, hfails⟩ := ofTokens_earliest hoffsets hts rfl (by nofun) hparse
  obtain rfl : 5 = k := (hk 5).1 rfl
  exact ⟨hoffsets, hts, rfl, hparse, hcompleted, hfails⟩

end Expr

end EventRules
