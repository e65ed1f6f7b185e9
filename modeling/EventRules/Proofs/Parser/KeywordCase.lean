import EventRules.Proofs.Parser.Lockstep
import EventRules.Proofs.Token.Recasing

/-!
# The case of keywords

Some words of an expression belong to the language: the operators that are spelled with letters, the literals
`true`, `false` and `null`, and the words of a conditional. A token is one of them by what it was taken as, and not
by how it is spelled: the same word names a function before a parenthesis, is a key of a map or a part of a path
elsewhere. In which case its letters are written makes no difference (`Expression.parse_recases`).
-/

namespace EventRules

/-- The token is one of some tokens, and a word of the language: an identifier that was taken as one, or an operator
that is spelled with letters in the source. -/
def Token.IsKeyword (source : List Char) (tokens : List Token) (roles : List TokenRole) (t : Token) : Prop :=
  ∃ n : Nat, tokens[n]? = some t ∧
    (t.kind = .identifier ∧ roles[n]? = some .word ∨ t.kind = .operator ∧ source[t.offset]?.any Text.isAlphabetic)

/-- A keyword is a word of its source. -/
lemma Token.IsKeyword.isWordOf {source : List Char} {tokens : List Token} {roles : List TokenRole} {t : Token}
    (h : t.IsKeyword source tokens roles) : t.IsWordOf source := by
  obtain ⟨n, -, hword⟩ := h
  exact hword.imp_left And.left

/-- Where all tokens but words of the language are written as they were, those are that were taken as something
else. -/
lemma Recasing.kept_of_keywords {I : Recasing} {source : List Char} {roles : List TokenRole} (hnodup : I.tokens.Nodup)
    (h : List.Forall₂ (fun t t' => t.Recased t' ∧ (¬ t.IsKeyword source I.tokens roles → t' = t)) I.before I.before') :
    I.Kept roles.reverse := by
  intro p role hrole hword
  rw [List.reverse_reverse] at hrole
  obtain ⟨hrecased, hkept⟩ := token_rel ⟨.refl _, fun _ => rfl⟩ h p
  -- A token is found by its place, as no two are equal, and its role by the same place.
  by_cases hkind : (I.token p).kind = .identifier
  · refine hkept ?_
    rintro ⟨n, hn, ⟨-, hrole'⟩ | ⟨hoperator, -⟩⟩
    · have hp : p < I.before.length := lt_of_kind (by rw [hkind]; decide)
      have hp' : I.tokens[p]? = some (I.token p) := tokens_getElem? (Nat.le_of_lt hp)
      obtain rfl := (List.getElem?_inj (Nat.lt_trans hp I.length_lt) hnodup).1 (hp'.trans hn.symm)
      cases hrole.symm.trans hrole'
      exact hword rfl
    · simp [hkind] at hoperator
  · exact hrecased.eq hkind

namespace IndexedParser

variable {I : Recasing} {maxDepth : Nat} {e : Expr} {before : List Token} {stop : Token} {taken roles : List TokenRole}

/-- What parsing gives is what a run of the parser over all tokens gives, with the roles in reverse. -/
lemma run_whole_of_parse (hstop : stop.kind = .eof) (h : parse (before ++ [stop]) maxDepth = .ok (e, roles)) :
    (whole (before ++ [stop]) maxDepth).run [] = .ok (e, roles.reverse) := by
  have hcompleted : completed (before ++ [stop]) = before ++ [stop] := by simp [completed, hstop]
  rw [parse, hcompleted] at h
  cases hrun : (whole (before ++ [stop]) maxDepth).run [] with
  | error fault => rw [hrun] at h; cases h
  | ok result =>
    rw [hrun] at h
    cases h
    rw [List.reverse_reverse]

/-- What tokens write is also what the parser gives that goes by positions. -/
lemma parse_of_ofTokens {tokens : List Token} (h : Expr.ofTokens tokens maxDepth = .ok e) :
    ∃ roles, parse tokens maxDepth = .ok (e, roles) := by
  have hfst := parse_fst tokens maxDepth
  rw [h] at hfst
  cases hparse : parse tokens maxDepth with
  | error fault => rw [hparse] at hfst; cases hfst
  | ok result =>
    rw [hparse] at hfst
    cases hfst
    exact ⟨result.2, rfl⟩

/-- Tokens that are written anew only where they are words of the language write the same expression. -/
lemma ofTokens_recased (h : (whole I.tokens maxDepth).run [] = .ok (e, taken)) (hkept : I.Kept taken)
    (hinner : ∀ t ∈ I.before', t.kind ≠ .eof) : Expr.ofTokens (I.before' ++ [I.stop]) maxDepth = .ok e := by
  have hstream : TokenStream.ofTokens (I.before' ++ [I.stop]) = ⟨I.before', I.stop⟩ :=
    TokenStream.ofTokens_append hinner I.ends []
  rw [Expr.ofTokens_eq, hstream]
  cases Follows.whole maxDepth [] (Nat.zero_le I.before.length) with
  | @ok e' new hx _ hy =>
    cases h.symm.trans hx
    rw [show (Parser.whole I.stop maxDepth).run I.before' = _ from hy hkept]
    rfl
  | error hx => cases h.symm.trans hx

end IndexedParser

/-- Lists related one by one are so without their last items, and the last items are. -/
lemma forall₂_of_concat {α β : Type} {R : α → β → Prop} {as : List α} {bs : List β} {a : α} {b : β}
    (h : List.Forall₂ R (as ++ [a]) (bs ++ [b])) : List.Forall₂ R as bs ∧ R a b := by
  rw [← List.forall₂_reverse_iff, List.reverse_append, List.reverse_append] at h
  obtain ⟨hlast, hothers⟩ := List.forall₂_cons.1 h
  exact ⟨List.forall₂_reverse_iff.1 hothers, hlast⟩

namespace Expression

/-- The character at a position of a source belongs to a word of the language. -/
def InKeyword (source : String) (maxDepth position : Nat) : Prop :=
  ∃ (tokens : List Token) (e : Expr) (roles : List TokenRole) (t : Token),
    tokenize source = .ok tokens ∧ IndexedParser.parse tokens maxDepth = .ok (e, roles) ∧
      t.IsKeyword source.toList tokens roles ∧ t.offset ≤ position ∧ position < t.wordEnd source.toList

/-- A source that differs from another in nothing but the case of ASCII letters, and in that only within words of
the language. -/
structure Recases (maxDepth : Nat) (source source' : String) : Prop where
  lower : Text.toLowerAscii source' = Text.toLowerAscii source
  kept : ∀ position, ¬ InKeyword source maxDepth position → source'.toList[position]? = source.toList[position]?

variable {source source' : String} {maxDepth : Nat} {e : Expr}

/-- A source that parses has tokens, and they write its tree. -/
lemma tokens_of_parse (h : parse source maxDepth = .ok ⟨source, e⟩) :
    ∃ tokens, tokenize source = .ok tokens ∧ Expr.ofTokens tokens maxDepth = .ok e := by
  rw [parse] at h
  cases htokens : tokenize source with
  | error err => rw [htokens] at h; cases h
  | ok tokens =>
    rw [htokens, Parser.ok_bind] at h
    cases hofTokens : Expr.ofTokens tokens maxDepth with
    | error err => rw [hofTokens] at h; cases h
    | ok e =>
      rw [hofTokens] at h
      cases h
      exact ⟨tokens, rfl, hofTokens⟩

/-- The tokens of a source are different, since they start at different places. -/
lemma nodup_tokens {tokens : List Token} (h : tokenize source = .ok tokens) : tokens.Nodup := by
  have hpairwise := ((Lexer.tokenize_gives source).offsets h).2
  refine hpairwise.imp fun hlt => ?_
  rintro rfl
  exact Nat.lt_irrefl _ hlt

/-- The case of letters in words of the language makes no difference. A source that parses does so to the same
tree when letters in such words are written in the other case, under the same limit of nesting. All tokens keep
their kinds and places, and so a minus that belongs to a number does so in either source; only identifiers may be
written in other letters. -/
theorem parse_recases (h : parse source maxDepth = .ok ⟨source, e⟩) (hrecases : Recases maxDepth source source') :
    parse source' maxDepth = .ok ⟨source', e⟩ ∧
      ∃ tokens tokens', tokenize source = .ok tokens ∧ tokenize source' = .ok tokens' ∧
        List.Forall₂ Token.Recased tokens tokens' := by
  obtain ⟨tokens, htokens, hofTokens⟩ := tokens_of_parse h
  obtain ⟨roles, hroles⟩ := IndexedParser.parse_of_ofTokens hofTokens
  have hchanged (i : Nat) (hi : source'.toList[i]? ≠ source.toList[i]?) :
      ∃ t ∈ tokens, t.IsKeyword source.toList tokens roles ∧ t.offset ≤ i ∧ i < t.wordEnd source.toList := by
    obtain ⟨tokens', e', roles', t, htokens', hroles', ht, hspan⟩ := not_imp_comm.1 (hrecases.kept i) hi
    cases htokens.symm.trans htokens'
    cases hroles.symm.trans hroles'
    obtain ⟨n, hn, -⟩ := id ht
    exact ⟨t, List.mem_of_getElem? hn, ht, hspan⟩
  obtain ⟨tokens', htokens', hrecased⟩ :=
    tokenize_recased hrecases.lower htokens (fun _ _ ht => ht.isWordOf) hchanged
  refine ⟨?_, tokens, tokens', htokens, htokens', hrecased.imp fun _ _ => And.left⟩
  have hnodup := nodup_tokens htokens
  obtain ⟨before, k, rfl, -⟩ := tokenize_ends htokens
  obtain ⟨before', k', rfl, hbefore'⟩ := tokenize_ends htokens'
  obtain ⟨hrecased, hstop, -⟩ := forall₂_of_concat hrecased
  have hends : (Token.eof k).kind = .eof := rfl
  rw [hstop.eq (by rw [hends]; decide)] at htokens'
  let I : Recasing :=
    { before, before', stop := .eof k, after := [], recased := hrecased.imp fun _ _ => And.left, ends := hends }
  have hkept : I.Kept roles.reverse := Recasing.kept_of_keywords hnodup hrecased
  have hrun := IndexedParser.run_whole_of_parse hends hroles
  have hofTokens' : Expr.ofTokens (before' ++ [Token.eof k]) maxDepth = .ok e :=
    IndexedParser.ofTokens_recased (I := I) hrun hkept hbefore'
  rw [parse, htokens', Parser.ok_bind, hofTokens']
  rfl

/-- The words of a conditional and a negation, with a number behind `then` that keeps its minus. -/
theorem parse_recases_minus :
    let source := "if NOT a then -1"
    let source' := "IF not a Then -1"
    let e : Expr := .ifThen (.unary .not (.variable "a")) (.literal (.int (-1)))
    parse source 200 = .ok ⟨source, e⟩ ∧ Recases 200 source source' ∧
      parse source' 200 = .ok ⟨source', e⟩ ∧
      ∃ tokens tokens', tokenize source = .ok tokens ∧ tokenize source' = .ok tokens' ∧
        List.Forall₂ Token.Recased tokens tokens' := by
  have htokens : tokenize "if NOT a then -1" = .ok [⟨.identifier, "if", 0⟩, ⟨.operator, "!", 3⟩, ⟨.identifier, "a", 7⟩,
      ⟨.identifier, "then", 9⟩, ⟨.number, "-1", 14⟩, .eof 16] := by decide +kernel
  have hparse : IndexedParser.parse [⟨.identifier, "if", 0⟩, ⟨.operator, "!", 3⟩, ⟨.identifier, "a", 7⟩,
      ⟨.identifier, "then", 9⟩, ⟨.number, "-1", 14⟩, .eof 16] 200 =
      .ok (.ifThen (.unary .not (.variable "a")) (.literal (.int (-1))), [.word, .mark, .variable, .word, .mark]) := rfl
  have hsource : parse "if NOT a then -1" 200 =
      .ok ⟨"if NOT a then -1", .ifThen (.unary .not (.variable "a")) (.literal (.int (-1)))⟩ := by
    rw [parse, htokens]
    rfl
  have hwords : Recases 200 "if NOT a then -1" "IF not a Then -1" := by
    refine ⟨by decide +kernel, fun position => not_imp_comm.1 fun hne => ?_⟩
    have hlt : position < 16 := by
      by_contra hge
      rw [List.getElem?_eq_none (Nat.not_lt.1 hge), List.getElem?_eq_none (Nat.not_lt.1 hge)] at hne
      exact hne rfl
    have hchanged : ∀ i : Fin 16, "IF not a Then -1".toList[i.val]? ≠ "if NOT a then -1".toList[i.val]? →
        i.val < 2 ∨ 3 ≤ i.val ∧ i.val < 6 ∨ i.val = 9 := by decide +kernel
    obtain hif | hnot | hthen := hchanged ⟨position, hlt⟩ hne
    · exact ⟨_, _, _, _, htokens, hparse, ⟨0, rfl, .inl ⟨rfl, rfl⟩⟩, Nat.zero_le _, hif⟩
    · exact ⟨_, _, _, _, htokens, hparse, ⟨1, rfl, .inr ⟨rfl, by decide +kernel⟩⟩, hnot.1, hnot.2⟩
    · exact ⟨_, _, _, _, htokens, hparse, ⟨3, rfl, .inl ⟨rfl, rfl⟩⟩, Nat.le_of_eq hthen.symm,
        Nat.lt_of_le_of_lt (Nat.le_of_eq hthen) (by decide +kernel)⟩
  intro source source' e
  exact ⟨hsource, hwords, parse_recases hsource hwords⟩

end Expression

end EventRules
