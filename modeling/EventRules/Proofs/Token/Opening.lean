import EventRules.Proofs.Token.Accessor
import EventRules.Proofs.Token.LineBreak

/-!
# Texts that end with an opening parenthesis

A text that ends with an opening parenthesis has its tokens whatever comes after it, and what comes after it
has the tokens that it has by itself, moved by the length of the text (`Opens`, `tokenize_opens`). This is
shown of the parenthesis alone, and of what stands before and between the parts of a conditional if each part
is in parentheses.
-/

namespace EventRules

namespace Lexer

variable {l l' : Lexer} {t : Token} {cs : List Char} {k : Nat} {afterOperand : Bool} {ts : List Token} {word : String}

/-- A token in front is given before the others. -/
lemma Gives.cons (h : l'.Gives (.ok ts)) (hnext : l.next = (.ok t, l')) (hkind : t.kind ≠ .eof) :
    l.Gives (.ok (t :: ts)) :=
  .token hnext hkind h

/-- A blank in front is passed. -/
lemma Gives.blank (h : (startAt cs (k + 1) afterOperand).Gives (.ok ts)) :
    (startAt (' ' :: cs) k afterOperand).Gives (.ok ts) :=
  h.of_next (next_congr (skipGap_blank rfl) rfl)

/-- An opening parenthesis in front is a token, and no operand ends with it. -/
lemma Gives.lparen (h : (startAt cs (k + 1) false).Gives (.ok ts)) :
    (startAt ('(' :: cs) k afterOperand).Gives (.ok (⟨.lparen, "(", k⟩ :: ts)) :=
  h.cons rfl nofun

/-- A closing parenthesis in front is a token, and an operand ends with it. -/
lemma Gives.rparen (h : (startAt cs (k + 1) true).Gives (.ok ts)) :
    (startAt (')' :: cs) k afterOperand).Gives (.ok (⟨.rparen, ")", k⟩ :: ts)) :=
  h.cons rfl nofun

/-- A question mark in front is a token, and no operand ends with it. -/
lemma Gives.question (h : (startAt cs (k + 1) false).Gives (.ok ts)) :
    (startAt ('?' :: cs) k afterOperand).Gives (.ok (⟨.operator, "?", k⟩ :: ts)) :=
  h.cons rfl nofun

/-- A colon in front is a token, and no operand ends with it. -/
lemma Gives.colon (h : (startAt cs (k + 1) false).Gives (.ok ts)) :
    (startAt (':' :: cs) k afterOperand).Gives (.ok (⟨.colon, ":", k⟩ :: ts)) :=
  h.cons rfl nofun

/-- Up to a blank a word is one identifier. -/
lemma identifier_blank {cs : List Char} (hcs : ∀ c ∈ cs, isIdentifierChar c) (more : List Char) :
    identifier (cs ++ ' ' :: more) = cs := by
  have hdotted : (cs ++ ' ' :: more).takeWhile isIdentifierChar = cs := takeWhile_stop hcs (by decide)
  simp [identifier, hdotted, accessors, accessor?]

/-- A name with a blank behind is a token by itself. -/
lemma next_word (hname : IsPlainName word) (hoperator : wordOperator? word = none) :
    (startAt (word.toList ++ ' ' :: cs) k afterOperand).next =
      (.ok ⟨.identifier, word, k⟩, startAt (' ' :: cs) (k + word.length)
        (Token.endsOperand ⟨.identifier, word, k⟩)) := by
  obtain ⟨c, more, hword, hc⟩ := hname.head
  have hidentifier := identifier_blank hname.isIdentifierChar cs
  have hscan : scan false ⟨word.toList ++ ' ' :: cs, k⟩ =
      (.ok ⟨.identifier, word, k⟩, ⟨' ' :: cs, k + word.length⟩) := by
    rw [hword, List.cons_append] at hidentifier ⊢
    rw [scan_letter hc, hidentifier, ← hword, wordToken, String.ofList_toList, hoperator, Cursor.advance]
    simp [← hword, ← List.cons_append, ← String.length_toList]
  have hsettled : Settled (word.toList ++ ' ' :: cs) := by
    rw [hword]
    exact settled_letter hc
  refine next_ok.2 ⟨_, skipGap_settled hsettled, ?_, rfl⟩
  cases afterOperand with
  | false => exact hscan
  | true =>
    refine scan_afterOperand hscan fun hnegative => ?_
    cases hnegative.1

/-- A word of a conditional ends no operand. -/
lemma Gives.keyword (hword : word ∈ ["if", "then", "else"])
    (h : (startAt (' ' :: cs) (k + word.length) false).Gives (.ok ts)) :
    (startAt (word.toList ++ ' ' :: cs) k afterOperand).Gives (.ok (⟨.identifier, word, k⟩ :: ts)) := by
  have hends : Token.endsOperand ⟨.identifier, word, k⟩ = false := by
    have hif : Text.toLowerAscii "if" = "if" := by decide
    have hthen : Text.toLowerAscii "then" = "then" := by decide
    have helse : Text.toLowerAscii "else" = "else" := by decide
    simp only [List.mem_cons, List.not_mem_nil, or_false] at hword
    rcases hword with rfl | rfl | rfl
    · simp [Token.endsOperand, Token.isWord, hif]
    · simp [Token.endsOperand, Token.isWord, hthen]
    · simp [Token.endsOperand, Token.isWord, helse]
  have hplain : ∀ word ∈ ["if", "then", "else"], IsPlainName word ∧ wordOperator? word = none := by decide
  obtain ⟨hname, hoperator⟩ := hplain word hword
  have hnext : (startAt (word.toList ++ ' ' :: cs) k afterOperand).next = _ := next_word hname hoperator
  rw [hends] at hnext
  exact h.cons hnext nofun

end Lexer

/-- The text is read as the tokens, and what comes after it as if nothing stood before it. -/
def Opens (text : String) (ts : List Token) : Prop :=
  ∀ cs k afterOperand more, (Lexer.startAt cs (k + text.length) false).Gives (.ok more) →
    (Lexer.startAt (text.toList ++ cs) k afterOperand).Gives (.ok (ts.map (Token.shift k) ++ more))

/-- A parenthesis by itself opens. -/
lemma opens_paren : Opens "(" [⟨.lparen, "(", 0⟩] :=
  fun _ _ _ _ h => h.lparen

/-- A conditional in words opens its condition. -/
lemma opens_if : Opens "if (" [⟨.identifier, "if", 0⟩, ⟨.lparen, "(", 3⟩] := by
  intro cs k afterOperand more h
  have hword : "if" ∈ ["if", "then", "else"] := by decide
  exact .keyword hword h.lparen.blank

/-- The consequence of a conditional in words opens behind the word `then`. -/
lemma opens_then : Opens ") then (" [⟨.rparen, ")", 0⟩, ⟨.identifier, "then", 2⟩, ⟨.lparen, "(", 7⟩] := by
  intro cs k afterOperand more h
  have hword : "then" ∈ ["if", "then", "else"] := by decide
  exact (Lexer.Gives.keyword hword h.lparen.blank).blank.rparen

/-- The alternative of a conditional in words opens behind the word `else`. -/
lemma opens_else : Opens ") else (" [⟨.rparen, ")", 0⟩, ⟨.identifier, "else", 2⟩, ⟨.lparen, "(", 7⟩] := by
  intro cs k afterOperand more h
  have hword : "else" ∈ ["if", "then", "else"] := by decide
  exact (Lexer.Gives.keyword hword h.lparen.blank).blank.rparen

/-- The consequence of a conditional in signs opens behind the question mark. -/
lemma opens_question : Opens ") ? (" [⟨.rparen, ")", 0⟩, ⟨.operator, "?", 2⟩, ⟨.lparen, "(", 4⟩] :=
  fun _ _ _ _ h => h.lparen.blank.question.blank.rparen

/-- The alternative of a conditional in signs opens behind the colon. -/
lemma opens_colon : Opens ") : (" [⟨.rparen, ")", 0⟩, ⟨.colon, ":", 2⟩, ⟨.lparen, "(", 4⟩] :=
  fun _ _ _ _ h => h.lparen.blank.colon.blank.rparen

/-- Behind a text that ends with an opening parenthesis a source has its own tokens. -/
lemma tokenize_opens {text source : String} {ts more : List Token} (h : Opens text ts)
    (hsource : tokenize source = .ok more) :
    tokenize (text ++ source) = .ok (ts ++ more.map (Token.shift text.length)) := by
  have hgives := Lexer.tokenize_gives source
  rw [hsource] at hgives
  have hmoved : (Lexer.ofSource source).embed text.length [] = Lexer.startAt source.toList (0 + text.length) false := by
    simp [Lexer.embed, Cursor.embed, Lexer.ofSource, Lexer.startAt]
  have hall := h source.toList 0 false _ (hmoved ▸ hgives.embed)
  have hshift : Token.shift 0 = id := funext Token.shift_zero
  rw [hshift, List.map_id, ← String.toList_append] at hall
  exact tokenize_eq_of_gives hall

/-- To move a token twice is to move it by both. -/
lemma Token.shift_comp (j k : Nat) : Token.shift j ∘ Token.shift k = Token.shift (j + k) := by
  funext t
  simp only [Function.comp_apply, Token.shift, Nat.add_assoc]

/-- Behind such a text and a source, on a line of its own, stands what begins with a closing parenthesis. -/
lemma tokenize_enclosed {text source following : String} {opening ts us : List Token} {n m : Nat}
    (hopens : Opens text opening)
    (hsource : tokenize source = .ok (ts ++ [Token.eof n]))
    (hfollowing : tokenize following = .ok (us ++ [Token.eof m]))
    (hhead : ∀ first ∈ us.head?, first.kind = .rparen) :
    ∃ j k l, tokenize (text ++ (source ++ "\n" ++ following)) =
      .ok (opening ++ (ts.map (Token.shift j) ++ us.map (Token.shift k)) ++ [Token.eof l]) := by
  have hnegative : ∀ first ∈ us.head?, ¬ first.IsNegative := by
    intro first hfirst hminus
    cases (hhead first hfirst).symm.trans hminus.1
  have hall := tokenize_opens hopens (tokenize_append hsource hfollowing (.inr hnegative))
  refine ⟨text.length, text.length + (source.length + 1), text.length + (source.length + 1) + m, ?_⟩
  rw [hall, List.map_append, List.map_map, Token.shift_comp, List.map_append, List.append_assoc, List.append_assoc]
  rfl

end EventRules
