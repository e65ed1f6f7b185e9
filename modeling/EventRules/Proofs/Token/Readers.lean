import EventRules.Proofs.Token.Gap

/-!
# What a token takes

Every reader of the lexer passes over a part of what is still to be read, and its error names a
character there (`Cursor.Reads`). The parts of a number and of an identifier are prefixes of the
text. `Lexer.numeral`, `Lexer.suffixed` and `Lexer.judge` are the steps in which `Lexer.number` goes:
what is written, what follows it, and whether that is a number. `Lexer.scan` reads a token at the
place of the lexer, which is the end of the input only where nothing is left (`scan_scanned`).
-/

namespace EventRules

/-- What a reader gives: it has passed over a part of the text, at least one character, and its error
names a character there. -/
structure Cursor.Reads {α : Type} (here : Cursor) (result : Except Error α × Cursor) : Prop where
  passes : ∃ c used, Passes (c :: used) here result.2
  error : ∀ e, result.1 = .error e → e.PointsInto here

namespace Cursor.Reads

variable {α : Type} {here stop : Cursor} {c : Char} {used : List Char} {a : α} {e : Error}

/-- What passes a character at least is read. -/
lemma of_ok (h : Passes (c :: used) here stop) : here.Reads (.ok a, stop) :=
  ⟨⟨c, used, h⟩, by simp⟩

/-- An error that points to a passed place is allowed. -/
lemma of_error (h : Passes (c :: used) here stop) (he : e.PointsInto here) :
    here.Reads ((.error e, stop) : Except Error α × Cursor) := by
  refine ⟨⟨c, used, h⟩, ?_⟩
  rintro _ ⟨⟩
  exact he

end Cursor.Reads

/-- A part of a text and a part of what follows it are a part of the text. -/
lemma Cursor.append_isPrefix {as bs cs : List Char} (ha : as <+: cs) (hb : bs <+: cs.drop as.length) :
    as ++ bs <+: cs := by
  obtain ⟨more, rfl⟩ := ha
  rw [List.drop_left] at hb
  exact (List.prefix_append_right_inj as).2 hb

namespace Lexer

section

variable {quote c : Char} {start position : Nat} {read cs : List Char}

/-- The quote ends a text. -/
lemma stringBody_quote : stringBody quote start read position (quote :: cs) =
    (.ok (String.ofList read.reverse), ⟨cs, position + 1⟩) := by
  rw [stringBody.eq_def]
  exact if_pos rfl

/-- Any other character but a backslash stands for itself. -/
lemma stringBody_plain (hquote : c ≠ quote) (hescape : c ≠ '\\') :
    stringBody quote start read position (c :: cs) = stringBody quote start (c :: read) (position + 1) cs := by
  rw [stringBody.eq_def]
  simp only [if_neg hquote, if_neg hescape]

/-- An escape of one letter stands for what it means. -/
lemma stringBody_escape (hquote : '\\' ≠ quote) (hc : c ≠ 'u') :
    stringBody quote start read position ('\\' :: c :: cs) =
      stringBody quote start ((escapeMeaning c).reverse ++ read) (position + 2) cs := by
  rw [stringBody.eq_def]
  simp only [if_neg hquote, if_true]

end

/-- A string literal, its opening quote included. -/
lemma stringBody_reads {quote : Char} {start position : Nat} {read cs before : List Char} {here : Cursor}
    (hstart : start = here.position) (h : Cursor.Passes (quote :: before) here ⟨cs, position⟩) :
    here.Reads (stringBody quote start read position cs) := by
  have opening (fault : LexFault) : (Error.lex start quote fault).PointsInto here :=
    ⟨0, quote, fault, by rw [hstart, Nat.add_zero], by rw [h.rest]; rfl⟩
  have escape {tail before : List Char} {p : Nat} (h : Cursor.Passes (quote :: before) here ⟨'\\' :: 'u' :: tail, p⟩) :
      here.Reads ((.error (.lex p '\\' .badUnicodeEscape), (⟨tail, p + 2⟩ : Cursor).advance
        ((tail.take 4).takeWhile Text.isHexDigit).length) : Except Error String × Cursor) := by
    have hlength := ((List.takeWhile_prefix Text.isHexDigit).trans (List.take_prefix 4 tail)).length_le
    exact .of_error (h.trans (.cons (.cons (Cursor.passes_advance _ hlength)))) (Error.PointsInto.head.of_passes h)
  fun_induction stringBody quote start read position cs generalizing before with
  | case1 => exact .of_error h (opening _)
  | case2 => exact .of_ok h.next
  | case3 => exact .of_error h.next (opening _)
  | case4 => exact escape h
  | case5 => exact .of_error h.next.next.next.next.next.next (Error.PointsInto.head.of_passes h)
  | case6 _ _ _ _ _ _ _ _ _ _ _ _ ih => exact ih h.next.next.next.next.next.next
  | case7 => exact escape h
  | case8 _ _ _ _ _ _ ih => exact ih h.next.next
  | case9 _ _ _ _ _ _ ih => exact ih h.next

/-- The minus sign at the start of a number. -/
def signPart (cs : List Char) : List Char :=
  if cs.headD '-' = '-' then ['-'] else []

/-- The number at the start of the text as it is written there, without a suffix, and whether it has a
fraction or an exponent. -/
def numeral (cs : List Char) : List Char × Bool :=
  let afterSign := cs.drop (signPart cs).length
  let digits := afterSign.takeWhile Char.isDigit
  let afterDigits := afterSign.drop digits.length
  let fraction := fractionPart afterDigits
  let exponent := exponentPart (afterDigits.drop fraction.length)
  (signPart cs ++ digits ++ fraction ++ exponent, !fraction.isEmpty || !exponent.isEmpty)

/-- The end of a number after what is written, behind its suffix, and whether the suffix makes it a
float. -/
def suffixed (isFloat : Bool) (body : Cursor) : Bool × Cursor :=
  match body.rest with
  | c :: _ =>
    if (c = 'L' ∨ c = 'l') ∧ !isFloat then (false, body.advance 1)
    else if c = 'f' ∨ c = 'F' ∨ c = 'd' ∨ c = 'D' then (true, body.advance 1)
    else (false, body)
  | [] => (false, body)

/-- What a number from `start` to `stop`, written as `text`, stands for. -/
def judge (start : Cursor) (text : List Char) (isFloat : Bool) (stop : Cursor) : Except Error String × Cursor :=
  match stop.rest.head?.filter fun c => Text.isAlphanumeric c || c == '_' with
  | some c => (.error (.lex stop.position c .badNumber), stop)
  | none =>
    if isFloat then
      match Decimal.readFloat? text with
      | none => (.error (.lex start.position (start.rest.headD '-') .badNumber), stop)
      | some x =>
        if (FloatParts.ofFloat x).isFinite then (.ok (Decimal.floatText x), stop)
        else (.error (.lex start.position (start.rest.headD '-') .floatOutOfRange), stop)
    else if (Decimal.readInt64? text).isSome then (.ok (String.ofList text), stop)
    else (.error (.lex start.position (start.rest.headD '-') .integerOutOfRange), stop)

/-- A number is what is written, with its suffix, if that stands for a number. -/
lemma number_eq (start : Cursor) :
    number start =
      judge start (numeral start.rest).1
        ((numeral start.rest).2 || (suffixed (numeral start.rest).2 (start.advance (numeral start.rest).1.length)).1)
        (suffixed (numeral start.rest).2 (start.advance (numeral start.rest).1.length)).2 :=
  rfl

/-- The sign of a number stands at its start, if there is one. -/
lemma signPart_isPrefix (c : Char) (cs : List Char) : signPart (c :: cs) <+: c :: cs := by
  rw [signPart]
  split
  next hsign =>
    obtain rfl : c = '-' := hsign
    exact (List.prefix_cons_inj _).2 List.nil_prefix
  next => exact List.nil_prefix

/-- A fraction begins the text in which it is looked for. -/
lemma fractionPart_isPrefix (cs : List Char) : fractionPart cs <+: cs := by
  fun_cases fractionPart cs with
  | case1 d rest => exact (List.prefix_cons_inj _).2 (List.takeWhile_prefix _)
  | case2 | case3 => exact List.nil_prefix

/-- An exponent begins the text in which it is looked for. -/
lemma exponentPart_isPrefix (cs : List Char) : exponentPart cs <+: cs := by
  fun_cases exponentPart cs with
  | case1 e sign d more => exact (List.prefix_cons_inj _).2 ((List.prefix_cons_inj _).2 (List.takeWhile_prefix _))
  | case3 => exact (List.prefix_cons_inj _).2 (List.takeWhile_prefix _)
  | case5 => exact List.prefix_rfl
  | _ => exact List.nil_prefix

/-- What is written of a number is a part of the text. -/
lemma isPrefix_numeral (c : Char) (cs : List Char) : (numeral (c :: cs)).1 <+: c :: cs := by
  simp only [numeral]
  refine Cursor.append_isPrefix (Cursor.append_isPrefix
    (Cursor.append_isPrefix (signPart_isPrefix c cs) (List.takeWhile_prefix _)) ?_) ?_
  · rw [List.length_append, ← List.drop_drop]
    exact fractionPart_isPrefix _
  · rw [List.length_append, List.length_append, ← List.drop_drop, ← List.drop_drop]
    exact exponentPart_isPrefix _

/-- What is written of a number begins with its sign or first digit. -/
lemma numeral_isPrefix {c : Char} (cs : List Char) (hc : c = '-' ∨ c.isDigit) :
    ∃ more, (numeral (c :: cs)).1 = c :: more ∧ more <+: cs := by
  have hne : (numeral (c :: cs)).1 ≠ [] := by
    by_cases hsign : c = '-'
    · simp [numeral, signPart, hsign]
    · simp [numeral, signPart, hsign, hc.resolve_left hsign]
  obtain hnil | ⟨more, hmore, hmoreprefix⟩ := List.prefix_cons_iff.1 (isPrefix_numeral c cs)
  · exact (hne hnil).elim
  · exact ⟨more, hmore, hmoreprefix⟩

/-- A suffix is passed if there is one. -/
lemma suffixed_passes (isFloat : Bool) (body : Cursor) : ∃ used, Cursor.Passes used body (suffixed isFloat body).2 := by
  rcases body with ⟨rest, position⟩
  cases rest with
  | nil => exact ⟨[], .refl _⟩
  | cons c cs =>
    simp only [suffixed]
    split
    · exact ⟨[c], .cons (.refl _)⟩
    · split
      · exact ⟨[c], .cons (.refl _)⟩
      · exact ⟨[], .refl _⟩

/-- To judge a number passes nothing, and its errors point into the number. -/
lemma judge_reads {start stop : Cursor} {c : Char} {used text : List Char} {isFloat : Bool}
    (h : Cursor.Passes (c :: used) start stop) : start.Reads (judge start text isFloat stop) := by
  have first (fault : LexFault) : (Error.lex start.position (start.rest.headD '-') fault).PointsInto start :=
    ⟨0, _, fault, rfl, by rw [h.rest]; rfl⟩
  rw [judge]
  split
  next c hc =>
    refine .of_error h (Error.PointsInto.of_passes ⟨0, c, _, rfl, ?_⟩ h)
    rw [← List.head?_eq_getElem?]
    exact (Option.filter_eq_some_iff.1 hc).1
  next =>
    split
    · split
      · exact .of_error h (first _)
      · split
        · exact .of_ok h
        · exact .of_error h (first _)
    · split
      · exact .of_ok h
      · exact .of_error h (first _)

/-- A number passes its text. -/
lemma number_reads {c : Char} {cs : List Char} {position : Nat} (hc : c = '-' ∨ c.isDigit) :
    Cursor.Reads ⟨c :: cs, position⟩ (number ⟨c :: cs, position⟩) := by
  obtain ⟨more, hmore, hbegins⟩ := numeral_isPrefix cs hc
  rw [number_eq, hmore]
  have hlength : (c :: more).length ≤ (c :: cs).length := Nat.succ_le_succ hbegins.length_le
  have hbody := Cursor.passes_advance ⟨c :: cs, position⟩ hlength
  obtain ⟨used, hsuffix⟩ := suffixed_passes (numeral (c :: cs)).2 (.advance ⟨c :: cs, position⟩ (c :: more).length)
  exact judge_reads (hbody.trans hsuffix)

/-- What can stand between the brackets of an accessor, where it begins with `first`. -/
def inside? (first : Char) (rest : List Char) : Option (List Char) :=
  if first = '\'' ∨ first = '"' then
    let text := rest.takeWhile (· ≠ first)
    if text.length < rest.length then some (first :: text ++ [first]) else none
  else if first.isDigit then some (first :: rest.takeWhile Char.isDigit)
  else none

/-- An accessor is a bracket, what is inside, and the bracket behind that. -/
lemma accessor?_eq (first : Char) (rest : List Char) :
    accessor? ('[' :: first :: rest) = (inside? first rest).bind fun inner =>
      if (first :: rest)[inner.length]? = some ']' then some ('[' :: inner ++ [']']) else none :=
  rfl

/-- A quote is found just if the text before it is not all. -/
lemma takeWhile_lt_iff {quote : Char} {cs : List Char} :
    (cs.takeWhile (· ≠ quote)).length < cs.length ↔ quote ∈ cs := by
  induction cs with
  | nil => simp
  | cons c cs ih =>
    by_cases hc : c = quote
    · simp [hc]
    · simpa [hc, Ne.symm hc] using ih

/-- A text with a quote goes on with it after its longest part without one. -/
lemma takeWhile_quote {quote : Char} {cs : List Char} (h : quote ∈ cs) :
    cs.takeWhile (· ≠ quote) ++ [quote] <+: cs := by
  induction cs with
  | nil => cases h
  | cons c cs ih =>
    by_cases hc : c = quote
    · simp [hc]
    · rw [List.takeWhile_cons, if_pos (decide_eq_true hc)]
      exact (List.prefix_cons_inj _).2 (ih ((List.mem_cons.1 h).resolve_left (Ne.symm hc)))

/-- What is inside brackets begins the text behind the first. -/
lemma inside?_isPrefix {first : Char} {rest inner : List Char} (h : inside? first rest = some inner) :
    inner <+: first :: rest := by
  simp only [inside?] at h
  split at h
  · split at h
    next hlength =>
      cases h
      exact (List.prefix_cons_inj _).2 (takeWhile_quote (takeWhile_lt_iff.1 hlength))
    next => cases h
  · split at h
    · cases h
      exact (List.prefix_cons_inj _).2 (List.takeWhile_prefix _)
    · cases h

/-- An accessor is a part of the text that begins with a bracket. -/
lemma accessor?_isPrefix {cs segment : List Char} (h : accessor? cs = some segment) :
    segment <+: cs ∧ 0 < segment.length := by
  rcases cs with _ | ⟨c, _ | ⟨first, rest⟩⟩
  · cases h
  · simp [accessor?] at h
  · by_cases hc : c = '['
    · subst hc
      rw [accessor?_eq] at h
      obtain ⟨inner, hinner, h⟩ := Option.bind_eq_some_iff.1 h
      split at h
      next hclose =>
        cases h
        rw [← List.head?_drop, List.head?_eq_some_iff] at hclose
        obtain ⟨more, hmore⟩ := hclose
        refine ⟨(List.prefix_cons_inj _).2 (Cursor.append_isPrefix (inside?_isPrefix hinner) ?_), Nat.succ_pos _⟩
        exact hmore ▸ (List.prefix_cons_inj _).2 List.nil_prefix
      next => cases h
    · simp [accessor?, hc] at h

/-- Accessors begin the text in which they are looked for. -/
lemma accessors_isPrefix (fuel : Nat) (cs : List Char) : accessors fuel cs <+: cs := by
  induction fuel generalizing cs with
  | zero => exact List.nil_prefix
  | succ fuel ih =>
    rw [accessors]
    split
    next segment h => exact Cursor.append_isPrefix (accessor?_isPrefix h).1 (ih _)
    next => exact List.nil_prefix

/-- What begins a word may be in a word. -/
lemma isIdentifierChar_of_word {c : Char} (hc : Text.isAlphabetic c || c == '_') : isIdentifierChar c := by
  simp only [Bool.or_eq_true] at hc
  rcases hc with hc | hc <;> simp [isIdentifierChar, Text.isAlphanumeric, hc]

/-- A name begins the text in which it is looked for. -/
lemma isPrefix_identifier (cs : List Char) : identifier cs <+: cs :=
  Cursor.append_isPrefix (List.takeWhile_prefix _) (accessors_isPrefix _ _)

/-- An identifier begins with the first character of the text, if that can stand in its dotted part. -/
lemma identifier_isPrefix {c : Char} (cs : List Char) (hc : isIdentifierChar c) :
    ∃ more, identifier (c :: cs) = c :: more ∧ more <+: cs := by
  obtain hnil | ⟨more, hmore, hmoreprefix⟩ := List.prefix_cons_iff.1 (isPrefix_identifier (c :: cs))
  · simp [identifier, hc] at hnil
  · exact ⟨more, hmore, hmoreprefix⟩

/-- A token whose text is read by a reader of its own. -/
def literal (kind : TokenKind) (position : Nat) (result : Except Error String × Cursor) : Except Error Token × Cursor :=
  (result.1.map fun text => ⟨kind, text, position⟩, result.2)

/-- A literal is read just if its text is, and lies where the text began. -/
lemma literal_ok {kind : TokenKind} {position : Nat} {result : Except Error String × Cursor} {t : Token} {stop : Cursor}
    (h : literal kind position result = (.ok t, stop)) :
    ∃ text, result = (.ok text, stop) ∧ t = ⟨kind, text, position⟩ := by
  obtain ⟨_ | text, stop'⟩ := result
  · cases h
  · cases h
    exact ⟨text, rfl, rfl⟩

/-- The token of a word, which may be an operator. -/
def wordToken (word : List Char) (position : Nat) : Token :=
  match wordOperator? (String.ofList word) with
  | some op => ⟨.operator, op, position⟩
  | none => ⟨.identifier, String.ofList word, position⟩

/-- What a mark or an operator of one or two characters is, as the character after its first one
decides. -/
def symbol (c : Char) (next : Option Char) : Except LexFault (TokenKind × List Char) :=
  match punctuation? c with
  | some kind => .ok (kind, [c])
  | none =>
    if c = '=' then
      if next = some '=' then .ok (.operator, ['=', '=']) else .error .loneEquals
    else if c = '!' ∨ c = '<' ∨ c = '>' then
      if next = some '=' then .ok (.operator, [c, '=']) else .ok (.operator, [c])
    else if c = '&' ∨ c = '|' then
      if next = some c then .ok (.operator, [c, c]) else .error (.notDoubled c)
    else .error .badCharacter

/-- The token of a symbol at the cursor. -/
def symbolToken (here : Cursor) (c : Char) : Except LexFault (TokenKind × List Char) → Except Error Token × Cursor
  | .ok (kind, text) => (.ok ⟨kind, String.ofList text, here.position⟩, here.advance text.length)
  | .error fault => (.error (.lex here.position c fault), here)

/-- The first character of a token and the one after it decide what is read. -/
lemma scan_cons (afterOperand : Bool) (c : Char) (cs : List Char) (position : Nat) :
    scan afterOperand ⟨c :: cs, position⟩ =
      if c = '\'' ∨ c = '"' then literal .string position (stringBody c position [] (position + 1) cs)
      else if c.isDigit ∨ c = '-' ∧ !afterOperand ∧ cs.head?.any Char.isDigit then
        literal .number position (number ⟨c :: cs, position⟩)
      else if Text.isAlphabetic c || c == '_' then
        (.ok (wordToken (identifier (c :: cs)) position), .advance ⟨c :: cs, position⟩ (identifier (c :: cs)).length)
      else symbolToken ⟨c :: cs, position⟩ c (symbol c cs.head?) := by
  simp only [scan]
  split
  -- The reader and its equation take the same branches in turn, with the two beginnings of a number as one.
  · rfl
  split
  next hdigit => rw [if_pos (.inl hdigit)]; rfl
  next hdigit =>
  split
  next hminus => rw [if_pos (.inr hminus)]; rfl
  next hminus =>
  rw [if_neg (not_or.2 ⟨hdigit, hminus⟩)]
  split
  next =>
    simp only [wordToken]
    cases wordOperator? (String.ofList (identifier (c :: cs))) <;> rfl
  next =>
    rw [symbol]
    cases punctuation? c with
    | some kind => rfl
    | none =>
      simp only
      split
      next heq =>
        subst heq
        split <;> rfl
      next =>
      split
      next => split <;> rfl
      next =>
      split
      next => split <;> rfl
      next => rfl

/-- What reading a token gives: the end of the input where nothing is left, a token of at least one
character, or an error that names a character which is left. -/
inductive Scanned (here : Cursor) : Except Error Token × Cursor → Prop
  | eof : here.rest = [] → Scanned here (.ok (.eof here.position), here)
  | token {t : Token} {stop : Cursor} {c : Char} {used : List Char} : t.kind ≠ .eof → t.offset = here.position →
    Cursor.Passes (c :: used) here stop → Scanned here (.ok t, stop)
  | error {e : Error} {stop : Cursor} {used : List Char} : e.PointsInto here → Cursor.Passes used here stop →
    Scanned here (.error e, stop)

/-- A reader that reads gives a token that is scanned. -/
lemma Scanned.of_reads {here : Cursor} {result : Except Error String × Cursor} {kind : TokenKind}
    (h : here.Reads result) (hkind : kind ≠ .eof) : Scanned here (literal kind here.position result) := by
  obtain ⟨c, used, hpass⟩ := h.passes
  rcases result with ⟨_ | text, stop⟩
  · exact .error (h.error _ rfl) hpass
  · exact .token hkind rfl hpass

/-- A word that begins the text is scanned. -/
lemma Scanned.of_isPrefix {c : Char} {cs word : List Char} {position : Nat} {t : Token} (hkind : t.kind ≠ .eof)
    (hoffset : t.offset = position) (hword : word <+: cs) :
    Scanned ⟨c :: cs, position⟩ (.ok t, Cursor.advance ⟨c :: cs, position⟩ (c :: word).length) := by
  have hpass := Cursor.passes_advance ⟨c :: cs, position⟩ ((List.prefix_cons_inj c).2 hword).length_le
  exact .token hkind hoffset hpass

/-- A word is a name or an operator. -/
lemma wordToken_kind (word : List Char) (position : Nat) : (wordToken word position).kind ≠ .eof := by
  rw [wordToken]
  split <;> simp

/-- A word lies where it began. -/
lemma wordToken_offset (word : List Char) (position : Nat) : (wordToken word position).offset = position := by
  rw [wordToken]
  split <;> rfl

/-- A mark is no end of the input. -/
lemma punctuation?_ne_eof {c : Char} {kind : TokenKind} (h : punctuation? c = some kind) : kind ≠ .eof := by
  rintro rfl
  unfold punctuation? at h
  split at h <;> cases h

/-- A symbol is its first character, or that and the next one. -/
lemma symbol_ok {c : Char} {cs text : List Char} {kind : TokenKind} (h : symbol c cs.head? = .ok (kind, text)) :
    kind ≠ .eof ∧ ∃ more, text = c :: more ∧ more <+: cs := by
  -- Signs of two characters are the sign and the one that is seen next.
  have pair {d : Char} (hd : cs.head? = some d) : [d] <+: cs := by
    obtain ⟨rest, rfl⟩ := List.head?_eq_some_iff.1 hd
    exact (List.prefix_cons_inj d).2 List.nil_prefix
  rw [symbol] at h
  split at h
  next kind' hkind =>
    cases h
    exact ⟨punctuation?_ne_eof hkind, [], rfl, List.nil_prefix⟩
  next =>
  split at h
  next heq =>
    subst heq
    split at h
    next hnext => cases h; exact ⟨by decide, ['='], rfl, pair hnext⟩
    next => cases h
  next =>
  split at h
  next =>
    split at h
    next hnext => cases h; exact ⟨by decide, ['='], rfl, pair hnext⟩
    next => cases h; exact ⟨by decide, [], rfl, List.nil_prefix⟩
  next =>
  split at h
  next =>
    split at h
    next hnext => cases h; exact ⟨by decide, [c], rfl, pair hnext⟩
    next => cases h
  next => cases h

/-- What is scanned passes the characters of the token, by cases of the first one. -/
lemma scan_scanned (afterOperand : Bool) (here : Cursor) : Scanned here (scan afterOperand here) := by
  obtain ⟨cs, position⟩ := here
  cases cs with
  | nil => exact .eof rfl
  | cons c cs =>
    rw [scan_cons]
    split
    next => exact .of_reads (stringBody_reads rfl (.cons (.refl _))) (by decide)
    next =>
    split
    next hnumber => exact .of_reads (number_reads (hnumber.symm.imp_left And.left)) (by decide)
    next =>
    split
    next hword =>
      obtain ⟨more, hmore, hbegins⟩ := identifier_isPrefix cs (isIdentifierChar_of_word hword)
      rw [hmore]
      exact .of_isPrefix (wordToken_kind _ _) (wordToken_offset _ _) hbegins
    next =>
      cases h : symbol c cs.head? with
      | error fault => exact .error .head (.refl _)
      | ok symbol =>
        obtain ⟨hkind, more, hmore, hbegins⟩ := symbol_ok h
        rw [symbolToken, hmore]
        exact .of_isPrefix hkind rfl hbegins

end Lexer

end EventRules
