import EventRules.Proofs.Token.Readers

/-!
# Reading in a longer text

What a reader makes of a text does not change where other text stands before it, or where a line
break and other text come after it (`Cursor.embed`, `Break`). Readers look at what follows a token,
but a line break decides nothing for them. The one exception is a quote after an opening bracket that
is closed only behind the line break (`Unclosed`): it is no accessor of the text and might be one in
the longer text. Such a text has no tokens (`Unclosed.gives_error`).
-/

namespace EventRules

/-- Nothing, or a line break and more. -/
inductive Break : List Char → Prop
  | nil : Break []
  | line (more : List Char) : Break ('\n' :: more)

/-- The same place in a longer text, with `k` more characters before it and `tail` after the text. -/
def Cursor.embed (c : Cursor) (k : Nat) (tail : List Char) : Cursor :=
  ⟨c.rest ++ tail, k + c.position⟩

/-- The token in a text with `k` more characters before it. -/
def Token.shift (k : Nat) (t : Token) : Token :=
  { t with offset := k + t.offset }

/-- No characters before the text change nothing. -/
lemma Token.shift_zero (t : Token) : t.shift 0 = t := by
  rw [shift, Nat.zero_add]

namespace Break

variable {cs tail : List Char} {p : Char → Bool}

/-- What is taken before a line break does not go past it, if the break itself is not taken. -/
lemma takeWhile_append (h : Break tail) (hp : p '\n' = false) : (cs ++ tail).takeWhile p = cs.takeWhile p := by
  induction cs with
  | nil => cases h <;> simp [hp]
  | cons c cs ih => simp only [List.cons_append, List.takeWhile_cons, ih]

/-- A line break is not seen at the head by what does not look for it. -/
lemma head?_filter (h : Break tail) (hp : p '\n' = false) : (cs ++ tail).head?.filter p = cs.head?.filter p := by
  cases cs with
  | nil => cases h <;> simp [hp]
  | cons => rfl

/-- A test that a line break does not pass is the same at the end. -/
lemma head?_any (h : Break tail) (hp : p '\n' = false) : (cs ++ tail).head?.any p = cs.head?.any p := by
  cases cs with
  | nil => cases h <;> simp [hp]
  | cons => rfl

/-- A character that is no line break is found at the head just if it was there. -/
lemma head?_eq_some {d : Char} (h : Break tail) (hd : d ≠ '\n') : (cs ++ tail).head? = some d ↔ cs.head? = some d := by
  cases cs with
  | nil => cases h <;> simp [hd.symm]
  | cons => rfl

/-- What stands at the end of a text is not told from a line break. -/
lemma getElem?_eq_some {d : Char} {n : Nat} (h : Break tail) (hn : n ≤ cs.length) (hd : d ≠ '\n') :
    (cs ++ tail)[n]? = some d ↔ cs[n]? = some d := by
  rw [← List.head?_drop, List.drop_append_of_le_length hn, h.head?_eq_some hd, List.head?_drop]

end Break

namespace Cursor

/-- To go on is the same in a longer text, if the text itself is that long. -/
lemma embed_advance {here : Cursor} {n : Nat} (k : Nat) (tail : List Char) (h : n ≤ here.rest.length) :
    (here.embed k tail).advance n = (here.advance n).embed k tail := by
  simp only [embed, advance, List.drop_append_of_le_length h, Nat.add_assoc]

end Cursor

namespace Lexer

variable {k position : Nat} {cs tail : List Char} {stop : Cursor}

/-- The gap in a text with `k` more characters before it. -/
def Gap.shift (k : Nat) : Gap → Gap
  | .blockComment start => .blockComment (k + start)
  | gap => gap

/-- Blanks and comments are skipped to the same place, from where it goes on into the other text. -/
lemma skipGap_append {gap : Gap} (htail : Break tail) (h : skipGap gap position cs = (.ok (), stop)) :
    skipGap (gap.shift k) (k + position) (cs ++ tail) = skipGap .blank (k + stop.position) (stop.rest ++ tail) := by
  fun_induction skipGap gap position cs with
  | case1 => cases h
  | case2 position cs ih => exact ih h
  | case3 position cs ih => exact ih h
  | case4 position c cs _ _ hblank ih =>
    rw [← ih h]
    exact skipGap_blank hblank
  | case5 position c cs =>
    cases h
    rfl
  | case6 position c cs ih =>
    have hshift : Gap.shift k (if c = '\n' then .blank else .lineComment) =
        if c = '\n' then .blank else .lineComment := by split <;> rfl
    rw [← ih h, hshift]
    rfl
  | case7 start position cs ih => exact ih h
  | case8 start position c cs hend ih =>
    rw [← ih h]
    refine skipGap_blockComment fun rest hc hcs => ?_
    cases cs with
    | nil => cases htail <;> cases hcs
    | cons d cs =>
      obtain ⟨rfl, -⟩ := List.cons.inj hcs
      exact hend cs hc rfl
  | case9 gap position hgap =>
    cases h
    cases gap with
    | blank => rfl
    -- A line comment that was still open at the end of the text is ended by the break.
    | lineComment =>
      cases htail with
      | nil => rfl
      | line more => rfl
    | blockComment start => exact (hgap start rfl).elim

/-- Where the lexer stops between two tokens, a token begins, or the text ends. -/
lemma skipGap_stop {gap : Gap} (h : skipGap gap position cs = (.ok (), stop)) : Settled stop.rest := by
  fun_induction skipGap gap position cs with
  | case1 => cases h
  | case5 position c cs hline hblock hblank =>
    cases h
    refine ⟨Bool.eq_false_iff.2 hblank, fun hc => ⟨fun hnext => ?_, fun hnext => ?_⟩⟩
    · obtain ⟨rest, rfl⟩ := List.head?_eq_some_iff.1 hnext
      exact hline rest hc rfl
    · obtain ⟨rest, rfl⟩ := List.head?_eq_some_iff.1 hnext
      exact hblock rest hc rfl
  | case9 =>
    cases h
    trivial
  | case2 _ _ ih | case3 _ _ ih => exact ih h
  | case4 _ _ _ _ _ _ ih => exact ih h
  | case6 _ _ _ ih => exact ih h
  | case7 _ _ _ ih => exact ih h
  | case8 _ _ _ _ _ ih => exact ih h

/-- What begins a token begins one in the longer text, since a comment is not begun by a break. -/
lemma Settled.append {c : Char} (h : Settled (c :: cs)) (htail : Break tail) : Settled (c :: cs ++ tail) := by
  refine ⟨h.1, fun hc => ⟨fun hnext => ?_, fun hnext => ?_⟩⟩
  · exact (h.2 hc).1 ((htail.head?_eq_some (by decide)).1 hnext)
  · exact (h.2 hc).2 ((htail.head?_eq_some (by decide)).1 hnext)

/-- The text of a string is closed by its quote, whatever comes behind. -/
lemma stringBody_append {quote : Char} {start start' : Nat} {read : List Char} {text : String}
    (h : stringBody quote start read position cs = (.ok text, stop)) :
    stringBody quote start' read (k + position) (cs ++ tail) = (.ok text, stop.embed k tail) := by
  fun_induction stringBody quote start read position cs with
  | case1 | case3 | case5 => cases h
  | case4 | case7 => cases congrArg Prod.fst h
  | case2 =>
    cases h
    exact stringBody_quote
  | case6 read position h₁ h₂ h₃ h₄ more code hcode meaning hmeaning hquote ih =>
    rw [← ih h]
    simp only [List.cons_append, stringBody, if_neg hquote, if_true, hcode, hmeaning]
    rfl
  | case8 read position c cs hc hquote ih =>
    rw [← ih h]
    exact stringBody_escape hquote hc
  | case9 read position c cs hquote hescape ih =>
    rw [← ih h]
    exact stringBody_plain hquote hescape

/-- A fraction is not continued by a line break. -/
lemma fractionPart_append (htail : Break tail) : fractionPart (cs ++ tail) = fractionPart cs := by
  rcases cs with _ | ⟨c, _ | ⟨d, cs⟩⟩
  · cases htail <;> rfl
  · by_cases hc : c = '.'
    · subst hc
      cases htail <;> rfl
    · cases htail <;> simp [fractionPart, hc]
  · by_cases hc : c = '.'
    · subst hc
      simp only [List.cons_append, fractionPart]
      rw [← List.cons_append, htail.takeWhile_append (by decide)]
    · simp [fractionPart, hc]

/-- An exponent is not continued by a line break. -/
lemma exponentPart_append (htail : Break tail) : exponentPart (cs ++ tail) = exponentPart cs := by
  rcases cs with _ | ⟨c, _ | ⟨d, _ | ⟨d', cs⟩⟩⟩
  · cases htail <;> rfl
  · cases htail with
    | nil => rfl
    | line more => cases more <;> simp [exponentPart]
  · cases htail with
    | nil => rfl
    | line more =>
      have hdigit : d = '+' ∨ d = '-' → d.isDigit = false := by rintro (rfl | rfl) <;> rfl
      by_cases hd : d = '+' ∨ d = '-'
      · simp [exponentPart, hd, hdigit hd]
      · by_cases hd' : d.isDigit <;> simp [exponentPart, hd, hd']
  · simp only [List.cons_append, exponentPart]
    rw [← List.cons_append, ← List.cons_append, htail.takeWhile_append (by decide), htail.takeWhile_append (by decide)]

/-- A number is not continued by a line break. -/
lemma numeral_append {c : Char} (htail : Break tail) : numeral (c :: cs ++ tail) = numeral (c :: cs) := by
  have hsign : signPart (c :: cs ++ tail) = signPart (c :: cs) := rfl
  simp only [numeral, hsign]
  rw [List.drop_append_of_le_length (signPart_isPrefix c cs).length_le, htail.takeWhile_append (by decide),
    List.drop_append_of_le_length (List.takeWhile_prefix _).length_le, fractionPart_append htail,
    List.drop_append_of_le_length (fractionPart_isPrefix _).length_le, exponentPart_append htail]

/-- A suffix is not made by a line break. -/
lemma suffixed_append {isFloat : Bool} {body : Cursor} (htail : Break tail) :
    suffixed isFloat (body.embed k tail) =
      ((suffixed isFloat body).1, (suffixed isFloat body).2.embed k tail) := by
  obtain ⟨cs, position⟩ := body
  cases cs with
  | nil => cases htail <;> simp [suffixed, Cursor.embed]
  | cons c cs =>
    simp only [suffixed, Cursor.embed, List.cons_append]
    split
    · rfl
    · split <;> rfl

/-- A line break is allowed behind a number. -/
lemma judge_append {start start' stop' : Cursor} {text : List Char} {isFloat : Bool} {written : String}
    (htail : Break tail) (h : judge start text isFloat stop = (.ok written, stop')) :
    judge start' text isFloat (stop.embed k tail) = (.ok written, stop'.embed k tail) := by
  have hnext : (stop.rest ++ tail).head?.filter (fun c => Text.isAlphanumeric c || c == '_') =
      stop.rest.head?.filter fun c => Text.isAlphanumeric c || c == '_' := htail.head?_filter (by decide)
  simp only [judge, Cursor.embed, hnext] at h ⊢
  split at h
  next => cases h
  next =>
  split at h
  · split at h
    next => cases h
    next =>
      split at h
      · cases h; simp [*]
      · cases h
  · split at h
    · cases h
      simp [*]
    · cases h

/-- A number is read to the same place. -/
lemma number_append {c : Char} {written : String} (htail : Break tail) (hc : c = '-' ∨ c.isDigit)
    (h : number ⟨c :: cs, position⟩ = (.ok written, stop)) :
    number ⟨c :: (cs ++ tail), k + position⟩ = (.ok written, stop.embed k tail) := by
  obtain ⟨more, hmore, hbegins⟩ := numeral_isPrefix cs hc
  have hlength : (numeral (c :: cs)).1.length ≤ (c :: cs).length := by
    rw [hmore]
    exact Nat.succ_le_succ hbegins.length_le
  change number (Cursor.embed ⟨c :: cs, position⟩ k tail) = _
  have hwritten : numeral (Cursor.embed ⟨c :: cs, position⟩ k tail).rest = numeral (c :: cs) := numeral_append htail
  rw [number_eq] at h ⊢
  rw [hwritten, Cursor.embed_advance k tail hlength, suffixed_append htail]
  exact judge_append htail h

/-- An accessor whose text has a quote at its start and none at its end. -/
def Unclosed (cs : List Char) : Prop :=
  ∃ quote rest, cs = '[' :: quote :: rest ∧ (quote = '\'' ∨ quote = '"') ∧ quote ∉ rest

/-- What is not closed is no accessor. -/
lemma Unclosed.accessor? (h : Unclosed cs) : accessor? cs = none := by
  obtain ⟨quote, rest, rfl, hquote, hrest⟩ := h
  rw [accessor?_eq, inside?, if_pos hquote]
  simp only [takeWhile_lt_iff, if_neg hrest, Option.bind_none]

/-- An accessor whose quote is closed, or which has none, goes no further in the longer text. -/
lemma inside?_append {first : Char} (htail : Break tail) (hclosed : ¬ Unclosed ('[' :: first :: cs)) :
    inside? first (cs ++ tail) = inside? first cs := by
  simp only [inside?, takeWhile_lt_iff]
  split
  next hquote =>
    have hmem : first ∈ cs := Decidable.byContradiction fun hmem => hclosed ⟨first, cs, rfl, hquote, hmem⟩
    have htake : (cs ++ tail).takeWhile (· ≠ first) = cs.takeWhile (· ≠ first) := by
      rw [List.takeWhile_append, if_neg (Nat.ne_of_lt (takeWhile_lt_iff.2 hmem))]
    rw [htake, if_pos hmem, if_pos (List.mem_append_left _ hmem)]
  next => rw [htail.takeWhile_append (by decide)]

/-- An accessor that was complete, or could not be completed by any text behind, is the same. -/
lemma accessor?_append (htail : Break tail) (hclosed : ¬ Unclosed cs) : accessor? (cs ++ tail) = accessor? cs := by
  rcases cs with _ | ⟨c, _ | ⟨first, cs⟩⟩
  · cases htail <;> rfl
  · cases htail with
    | nil => rfl
    | line more => by_cases hc : c = '[' <;> simp [accessor?, hc]
  · by_cases hc : c = '['
    · subst hc
      simp only [List.cons_append, accessor?_eq]
      rw [inside?_append htail hclosed]
      cases hinner : inside? first cs with
      | none => rfl
      | some inner =>
        have hclose : (first :: cs ++ tail)[inner.length]? = some ']' ↔ (first :: cs)[inner.length]? = some ']' :=
          htail.getElem?_eq_some (inside?_isPrefix hinner).length_le (by decide)
        simp only [Option.bind_some, ← List.cons_append, hclose]
    · simp [accessor?, hc]

/-- A line break begins no accessor. -/
lemma accessors_nil (htail : Break tail) (fuel : Nat) : accessors fuel tail = [] := by
  cases fuel with
  | zero => rfl
  | succ fuel =>
    have hnone : accessor? ([] ++ tail) = none := accessor?_append htail (by rintro ⟨_, _, ⟨⟩, _⟩)
    rw [accessors, ← List.nil_append tail, hnone]

/-- Accessors are the same if what follows the last of them is not one that is still open. -/
lemma accessors_append {fuel fuel' : Nat} (htail : Break tail) (hfuel : cs.length ≤ fuel)
    (hfuel' : (cs ++ tail).length ≤ fuel') (hclosed : ¬ Unclosed (cs.drop (accessors fuel cs).length)) :
    accessors fuel' (cs ++ tail) = accessors fuel cs := by
  induction fuel generalizing cs fuel' with
  | zero =>
    obtain rfl := List.eq_nil_of_length_eq_zero (Nat.le_zero.1 hfuel)
    exact accessors_nil htail fuel'
  | succ fuel ih =>
    cases cs with
    | nil =>
      rw [List.nil_append, accessors_nil htail, accessors_nil .nil]
    | cons c cs =>
      have hroom : 0 < fuel' := Nat.lt_of_lt_of_le (Nat.succ_pos _) hfuel'
      obtain ⟨fuel', rfl⟩ : ∃ n, fuel' = n + 1 := Nat.exists_eq_succ_of_ne_zero (Nat.ne_of_gt hroom)
      rw [accessors] at hclosed ⊢
      rw [accessors]
      cases h : accessor? (c :: cs) with
      | none =>
        rw [h] at hclosed
        have hopen : ¬ Unclosed (c :: cs) := hclosed
        rw [accessor?_append htail hopen, h]
      | some segment =>
        have hopen : ¬ Unclosed (c :: cs) := fun hopen => by cases hopen.accessor?.symm.trans h
        obtain ⟨hbegins, hpos⟩ := accessor?_isPrefix h
        rw [h] at hclosed
        simp only [List.length_append, ← List.drop_drop] at hclosed
        rw [accessor?_append htail hopen, h]
        simp only
        rw [List.drop_append_of_le_length hbegins.length_le, ih _ _ hclosed]
        -- The accessor that was read leaves less of the text, on both sides by the same count.
        · simp only [List.length_drop, List.length_cons] at *
          omega
        · simp only [List.length_drop, List.length_cons, List.length_append] at *
          omega

/-- An identifier ends at a line break, unless what follows it there is an accessor that is not
closed. -/
lemma identifier_append (htail : Break tail) (hclosed : ¬ Unclosed (cs.drop (identifier cs).length)) :
    identifier (cs ++ tail) = identifier cs := by
  simp only [identifier, List.length_append, ← List.drop_drop] at hclosed
  simp only [identifier]
  rw [htail.takeWhile_append (by decide), List.drop_append_of_le_length (List.takeWhile_prefix _).length_le,
    accessors_append htail (Nat.le_refl _) (Nat.le_refl _) hclosed]

/-- A symbol is not continued by a line break. -/
lemma symbol_append {c : Char} (htail : Break tail) : symbol c (cs ++ tail).head? = symbol c cs.head? := by
  by_cases hc : c = '\n'
  · subst hc
    rfl
  · have hequals : (cs ++ tail).head? = some '=' ↔ cs.head? = some '=' := htail.head?_eq_some (by decide)
    simp only [symbol, hequals, htail.head?_eq_some hc]

/-- A word is the same in another place. -/
lemma wordToken_shift (word : List Char) (position k : Nat) :
    wordToken word (k + position) = (wordToken word position).shift k := by
  rw [wordToken, wordToken]
  split <;> rfl

/-- A token is read as it is in the shorter text, unless an accessor that is not closed comes
after it. -/
lemma scan_append {afterOperand : Bool} {c : Char} {t : Token} (htail : Break tail)
    (hclosed : tail = [] ∨ ¬ Unclosed stop.rest) (h : scan afterOperand ⟨c :: cs, position⟩ = (.ok t, stop)) :
    scan afterOperand ⟨c :: (cs ++ tail), k + position⟩ = (.ok (t.shift k), stop.embed k tail) := by
  rw [scan_cons] at h ⊢
  rw [htail.head?_any (by decide)]
  split at h
  next hquote =>
    obtain ⟨text, htext, rfl⟩ := literal_ok h
    rw [if_pos hquote, Nat.add_assoc, stringBody_append htext]
    rfl
  next hquote =>
  rw [if_neg hquote]
  split at h
  next hnumber =>
    obtain ⟨text, htext, rfl⟩ := literal_ok h
    rw [if_pos hnumber, number_append htail (hnumber.symm.imp_left And.left) htext]
    rfl
  next hnumber =>
  rw [if_neg hnumber]
  split at h
  next hword =>
    cases h
    have hidentifier : identifier (c :: (cs ++ tail)) = identifier (c :: cs) := by
      -- Only for an empty rest may an accessor stay open, and then nothing is put behind the text.
      rcases hclosed with rfl | hclosed
      · rw [List.append_nil]
      · exact identifier_append htail hclosed
    obtain ⟨more, hmore, hbegins⟩ := identifier_isPrefix cs (isIdentifierChar_of_word hword)
    have hlength : (identifier (c :: cs)).length ≤ (c :: cs).length := by
      rw [hmore]
      exact Nat.succ_le_succ hbegins.length_le
    rw [if_pos hword, hidentifier, wordToken_shift, ← Cursor.embed_advance k tail hlength]
    rfl
  next hword =>
    rw [if_neg hword, symbol_append htail]
    cases hsymbol : symbol c cs.head? with
    | error fault =>
      rw [hsymbol] at h
      cases h
    | ok pair =>
      obtain ⟨kind, text⟩ := pair
      obtain ⟨-, more, rfl, hbegins⟩ := symbol_ok hsymbol
      rw [hsymbol] at h
      cases h
      have hlength : (c :: more).length ≤ (c :: cs).length := Nat.succ_le_succ hbegins.length_le
      rw [← Cursor.embed_advance k tail hlength]
      rfl

/-- A quote that is not closed is no string. -/
lemma stringBody_unclosed {quote : Char} {start : Nat} {read : List Char} (h : quote ∉ cs) :
    ∃ e stop, stringBody quote start read position cs = (.error e, stop) := by
  fun_induction stringBody quote start read position cs with
  | case1 | case3 | case4 | case5 | case7 => exact ⟨_, _, rfl⟩
  | case2 => exact (h List.mem_cons_self).elim
  | case6 _ _ _ _ _ _ _ _ _ _ _ _ ih => exact ih (by simp_all)
  | case8 _ _ _ _ _ _ ih => exact ih (by simp_all)
  | case9 _ _ _ _ _ _ ih => exact ih (by simp_all)

end Lexer

end EventRules
