import EventRules.Proofs.Text.LetterCase
import EventRules.Proofs.Token.Readers
import Mathlib.Data.List.Forall2

/-!
# Reading letters in either case

The readers of a lexer do the same on a text and on that text in small letters (`Cursor.lower`): they stop at the
same places, and what they read is the same but for the case of letters. So two texts with the same small letters
have tokens of the same kinds at the same places. Where the texts are the same, the tokens are.
-/

namespace EventRules

/-- Two tokens that differ in nothing but the case of ASCII letters, and in that only if they are identifiers. -/
structure Token.Recased (t t' : Token) : Prop where
  kind : t'.kind = t.kind
  offset : t'.offset = t.offset
  text : t.kind ≠ .identifier → t'.text = t.text
  lower : Text.toLowerAscii t'.text = Text.toLowerAscii t.text

namespace Token.Recased

variable {t t' : Token}

/-- A token is a recasing of itself. -/
lemma refl (t : Token) : t.Recased t :=
  ⟨rfl, rfl, fun _ => rfl, rfl⟩

/-- Only identifiers can be written in other letters. -/
lemma eq (h : t.Recased t') (hkind : t.kind ≠ .identifier) : t' = t := by
  obtain ⟨kind, text, offset⟩ := t
  obtain ⟨kind', text', offset'⟩ := t'
  obtain ⟨rfl, rfl, htext, -⟩ := h
  obtain rfl := htext hkind
  rfl

/-- Whether a token is a word of the language is told by its small letters. -/
lemma isWord (h : t.Recased t') (word : String) : t'.isWord word = t.isWord word := by
  rw [Token.isWord, Token.isWord, h.kind, h.lower]

/-- An operator that is spelled as a word is one in any letters. -/
lemma isOperator (h : t.Recased t') (op : String) : t'.isOperator op = t.isOperator op := by
  by_cases hkind : t.kind = .identifier
  · rw [Token.isOperator, Token.isOperator, h.kind, hkind]
    rfl
  · rw [h.eq hkind]

/-- Whether an operand ends with a token does not depend on its letters. -/
lemma endsOperand (h : t.Recased t') : t'.endsOperand = t.endsOperand := by
  simp only [Token.endsOperand, h.kind, h.isWord]

end Token.Recased

/-- The place in the text written in small letters. -/
def Cursor.lower (c : Cursor) : Cursor :=
  ⟨c.rest.map Char.toLower, c.position⟩

/-- To go on and to write in small letters can be done in either order. -/
lemma Cursor.lower_advance (c : Cursor) (n : Nat) : (c.advance n).lower = c.lower.advance n := by
  rw [lower, advance, lower, advance, List.map_drop]

/-- Places in texts with the same small letters are told by the same number. -/
lemma Cursor.position_of_lower {here here' : Cursor} (h : here'.lower = here.lower) : here'.position = here.position :=
  show here'.lower.position = here.lower.position by rw [h]

namespace Lexer

variable {c d : Char} {cs ds : List Char} {position : Nat} {here here' stop : Cursor}

/-- What is taken while a property holds is the same in small letters, if the property does not see letters. -/
lemma takeWhile_lower {p : Char → Bool} (hp : ∀ c : Char, p c.toLower = p c) (cs : List Char) :
    (cs.map Char.toLower).takeWhile p = (cs.takeWhile p).map Char.toLower := by
  rw [List.takeWhile_map]
  exact congrArg (fun q => (cs.takeWhile q).map Char.toLower) (funext hp)

/-- A character that is no letter is found in small letters just if it was there. -/
lemma map_toLower_eq_some {found : Option Char} {x : Char} (hx : ¬ x.isAlpha) :
    found.map Char.toLower = some x ↔ found = some x := by
  cases found with
  | none => rfl
  | some c => simp [toLower_eq_iff hx]

/-- A character that is no letter is at the head in small letters just if it was there. -/
lemma head?_lower_eq_some {x : Char} (hx : ¬ x.isAlpha) :
    (cs.map Char.toLower).head? = some x ↔ cs.head? = some x := by
  rw [List.head?_map, map_toLower_eq_some hx]

/-- A property that does not see letters is the same of the head in small letters. -/
lemma head?_lower_any {p : Char → Bool} (hp : ∀ c : Char, p c.toLower = p c) (cs : List Char) :
    (cs.map Char.toLower).head?.any p = cs.head?.any p := by
  cases cs with
  | nil => rfl
  | cons c cs => exact hp c

/-- Blanks and comments are skipped to the same place. -/
lemma skipGap_lower (gap : Gap) (position : Nat) (cs : List Char) :
    skipGap gap position (cs.map Char.toLower) = ((skipGap gap position cs).1, (skipGap gap position cs).2.lower) := by
  fun_induction skipGap gap position cs with
  | case1 => rfl
  | case2 position cs ih => exact ih
  | case3 position cs ih => exact ih
  | case4 position c cs _ _ hblank ih =>
    rw [List.map_cons, skipGap_blank (by rwa [Text.isBlank_toLower]), ih]
  | case5 position c cs hline hblock hblank =>
    -- No blank and no sign of a comment is a letter, so in small letters nothing more is skipped.
    have hsettled : Settled (c.toLower :: cs.map Char.toLower) := by
      refine ⟨?_, fun hc => ?_⟩
      · rwa [Text.isBlank_toLower, Bool.eq_false_iff]
      · rw [toLower_eq_iff (by decide)] at hc
        rw [Ne, Ne, head?_lower_eq_some (by decide), head?_lower_eq_some (by decide), List.head?_eq_some_iff,
          List.head?_eq_some_iff]
        refine ⟨?_, ?_⟩
        · rintro ⟨rest, hrest⟩
          exact hline rest hc hrest
        · rintro ⟨rest, hrest⟩
          exact hblock rest hc hrest
    exact skipGap_settled hsettled
  | case6 position c cs ih =>
    rw [← ih]
    simp only [List.map_cons, skipGap, toLower_eq_iff (c := c) (d := '\n') (by decide)]
  | case7 start position cs ih => exact ih
  | case8 start position c cs hend ih =>
    rw [← ih, List.map_cons]
    refine skipGap_blockComment fun rest hc hcs => ?_
    rw [toLower_eq_iff (by decide)] at hc
    cases cs with
    | nil => cases hcs
    | cons d cs =>
      obtain ⟨hd, -⟩ := List.cons.inj hcs
      rw [toLower_eq_iff (by decide)] at hd
      exact hend cs hc (by rw [hd])
  | case9 gap position hgap =>
    cases gap with
    | blank => rfl
    | lineComment => rfl
    | blockComment start => exact (hgap start rfl).elim

/-- The fraction of a number is a point and digits. -/
lemma fractionPart_lower (cs : List Char) :
    fractionPart (cs.map Char.toLower) = (fractionPart cs).map Char.toLower := by
  rcases cs with _ | ⟨c, _ | ⟨d, cs⟩⟩
  · rfl
  · simp [fractionPart]
  · by_cases hc : c = '.'
    · subst hc
      show (if d.toLower.isDigit then '.' :: ((d :: cs).map Char.toLower).takeWhile Char.isDigit else []) = _
      rw [isDigit_toLower, takeWhile_lower isDigit_toLower, fractionPart]
      split <;> rfl
    · have hc' : c.toLower ≠ '.' := mt (toLower_eq_iff (by decide)).1 hc
      simp [fractionPart, hc, hc']

/-- The exponent of a number is read in either case, and its letter comes out small. -/
lemma exponentPart_lower (cs : List Char) :
    exponentPart (cs.map Char.toLower) = (exponentPart cs).map Char.toLower := by
  have hletter (c : Char) : c.toLower = 'e' ∨ c.toLower = 'E' ↔ c = 'e' ∨ c = 'E' :=
    toLower_eq_or_iff (by decide) (by decide)
  have hsign (c : Char) : c.toLower = '+' ∨ c.toLower = '-' ↔ c = '+' ∨ c = '-' :=
    or_congr (toLower_eq_iff (by decide)) (toLower_eq_iff (by decide))
  rcases cs with _ | ⟨e, _ | ⟨sign, _ | ⟨d, cs⟩⟩⟩
  · rfl
  · simp [exponentPart]
  · simp only [List.map_cons, List.map_nil, exponentPart, hletter, isDigit_toLower]
    split_ifs <;> rfl
  · simp only [List.map_cons, exponentPart, hletter, hsign, isDigit_toLower]
    rw [← List.map_cons, ← List.map_cons, takeWhile_lower isDigit_toLower, takeWhile_lower isDigit_toLower]
    split_ifs <;> rfl

/-- The sign of a number is no letter. -/
lemma signPart_lower (cs : List Char) : signPart (cs.map Char.toLower) = (signPart cs).map Char.toLower := by
  cases cs with
  | nil => rfl
  | cons c cs =>
    have hsign : c.toLower = '-' ↔ c = '-' := toLower_eq_iff (by decide)
    by_cases hc : c = '-' <;> simp [signPart, hsign, hc]

/-- What is written of a number in small letters, and whether it is a float. -/
lemma numeral_lower (cs : List Char) :
    numeral (cs.map Char.toLower) = ((numeral cs).1.map Char.toLower, (numeral cs).2) := by
  simp only [numeral, signPart_lower, ← List.map_drop, takeWhile_lower isDigit_toLower, List.length_map,
    fractionPart_lower, exponentPart_lower, List.map_append, List.isEmpty_map]

/-- The suffix of a number is read in either case. -/
lemma suffixed_lower (isFloat : Bool) (body : Cursor) :
    suffixed isFloat body.lower = ((suffixed isFloat body).1, (suffixed isFloat body).2.lower) := by
  obtain ⟨_ | ⟨c, cs⟩, position⟩ := body
  · rfl
  · have hlong : c.toLower = 'L' ∨ c.toLower = 'l' ↔ c = 'L' ∨ c = 'l' := by
      rw [or_comm, toLower_eq_or_iff (by decide) (by decide), or_comm]
    have hfloat : c.toLower = 'f' ∨ c.toLower = 'F' ∨ c.toLower = 'd' ∨ c.toLower = 'D' ↔
        c = 'f' ∨ c = 'F' ∨ c = 'd' ∨ c = 'D' := by
      rw [← or_assoc, toLower_eq_or_iff (by decide) (by decide), toLower_eq_or_iff (by decide) (by decide), or_assoc]
    simp only [Cursor.lower, List.map_cons, suffixed, hlong, hfloat]
    split_ifs <;> rfl

/-- The text in a bracket ends at the same place. -/
lemma inside?_lower (first : Char) (cs : List Char) :
    inside? first.toLower (cs.map Char.toLower) = (inside? first cs).map (·.map Char.toLower) := by
  have hquote : first.toLower = '\'' ∨ first.toLower = '"' ↔ first = '\'' ∨ first = '"' :=
    or_congr (toLower_eq_iff (by decide)) (toLower_eq_iff (by decide))
  simp only [inside?, hquote, isDigit_toLower, takeWhile_lower isDigit_toLower]
  split
  next h =>
    have hfirst : ¬ first.isAlpha := by rcases h with rfl | rfl <;> decide
    rw [toLower_of_not_isAlpha hfirst, takeWhile_lower fun c => by simp [toLower_eq_iff hfirst], List.length_map,
      List.length_map]
    split <;> simp [toLower_of_not_isAlpha hfirst]
  next => split <;> simp

/-- An accessor ends at the same place. -/
lemma accessor?_lower (cs : List Char) :
    accessor? (cs.map Char.toLower) = (accessor? cs).map (·.map Char.toLower) := by
  rcases cs with _ | ⟨c, _ | ⟨first, cs⟩⟩
  · rfl
  · simp [accessor?]
  · by_cases hc : c = '['
    · subst hc
      show accessor? ('[' :: first.toLower :: cs.map Char.toLower) = _
      rw [accessor?_eq, accessor?_eq, inside?_lower]
      cases inside? first cs with
      | none => rfl
      | some inner =>
        simp only [Option.map_some, Option.bind_some, List.length_map, ← List.map_cons, List.getElem?_map,
          map_toLower_eq_some (x := ']') (by decide)]
        split_ifs
        · simp
        · rfl
    · have hc' : c.toLower ≠ '[' := mt (toLower_eq_iff (by decide)).1 hc
      simp [accessor?, hc, hc']

/-- A row of accessors ends at the same place, whatever the fuel is. -/
lemma accessors_lower (fuel : Nat) (cs : List Char) :
    accessors fuel (cs.map Char.toLower) = (accessors fuel cs).map Char.toLower := by
  induction fuel generalizing cs with
  | zero => rfl
  | succ fuel ih =>
    rw [accessors, accessors, accessor?_lower]
    cases accessor? cs with
    | none => rfl
    | some segment => simp only [Option.map_some, List.map_append, List.length_map, ← List.map_drop, ih]

/-- Whether a character may be in a name does not depend on its case. -/
lemma isIdentifierChar_toLower (c : Char) : isIdentifierChar c.toLower = isIdentifierChar c :=
  apply_toLower (b := true) (fun c hc => by simp [isIdentifierChar, Text.isAlphanumeric, isAlphabetic_of_isAlpha hc]) c

/-- A name ends at the same place. -/
lemma identifier_lower (cs : List Char) : identifier (cs.map Char.toLower) = (identifier cs).map Char.toLower := by
  simp only [identifier, takeWhile_lower isIdentifierChar_toLower, List.length_map, ← List.map_drop, accessors_lower,
    List.map_append]

/-- What a string literal takes is a part of the text, and the same literal before whatever else. -/
lemma stringBody_used {quote : Char} {start : Nat} {read : List Char} {text : String}
    (h : stringBody quote start read position cs = (.ok text, stop)) :
    ∃ used, cs = used ++ stop.rest ∧ stop.position = position + used.length ∧
      ∀ tail, stringBody quote start read position (used ++ tail) = (.ok text, ⟨tail, stop.position⟩) := by
  fun_induction stringBody quote start read position cs with
  | case1 | case3 | case5 => cases h
  | case4 | case7 => cases congrArg Prod.fst h
  | case2 =>
    cases h
    exact ⟨[quote], rfl, rfl, fun tail => stringBody_quote⟩
  -- Each case puts what it reads before what the rest reads, and the same steps are taken on any text behind
  -- it.
  | case6 read position h₁ h₂ h₃ h₄ more code hcode meaning hmeaning hquote ih =>
    obtain ⟨used, rfl, hposition, hused⟩ := ih h
    refine ⟨'\\' :: 'u' :: h₁ :: h₂ :: h₃ :: h₄ :: used, rfl, ?_, fun tail => ?_⟩
    · simp only [hposition, List.length_cons]
      omega
    · rw [← hused tail]
      simp only [List.cons_append, stringBody, if_neg hquote, if_true, hcode, hmeaning]
  | case8 read position c cs hc hquote ih =>
    obtain ⟨used, rfl, hposition, hused⟩ := ih h
    refine ⟨'\\' :: c :: used, rfl, ?_, fun tail => ?_⟩
    · simp only [hposition, List.length_cons]
      omega
    · rw [← hused tail]
      exact stringBody_escape hquote hc
  | case9 read position c cs hquote hescape ih =>
    obtain ⟨used, rfl, hposition, hused⟩ := ih h
    refine ⟨c :: used, rfl, ?_, fun tail => ?_⟩
    · simp only [hposition, List.length_cons]
      omega
    · rw [← hused tail]
      exact stringBody_plain hquote hescape

/-- Without a character of the kind nothing is kept. -/
lemma filter_eq_none_iff {next : Option Char} {p : Char → Bool} : next.filter p = none ↔ next.any p = false := by
  cases next <;> simp

/-- A string literal written with the same characters, before text with the same small letters, is the same. -/
lemma stringBody_recased {text : String} (h : ds.map Char.toLower = cs.map Char.toLower)
    (hbody : stringBody c position [] (position + 1) cs = (.ok text, stop))
    (hkept : (c :: ds).take (stop.position - position) = (c :: cs).take (stop.position - position)) :
    ∃ stop', stringBody c position [] (position + 1) ds = (.ok text, stop') ∧ stop'.lower = stop.lower := by
  obtain ⟨used, hcs, hposition, hused⟩ := stringBody_used hbody
  have hlength : stop.position - position = used.length + 1 := by omega
  have htake : ds.take used.length = used := by
    rw [hlength, List.take_succ_cons, List.take_succ_cons, hcs, List.take_left] at hkept
    exact (List.cons.inj hkept).2
  have hds : ds = used ++ ds.drop used.length := by
    conv_lhs => rw [← List.take_append_drop used.length ds, htake]
  refine ⟨⟨ds.drop used.length, stop.position⟩, ?_, ?_⟩
  · conv_lhs => rw [hds]
    exact hused _
  · rw [Cursor.lower, Cursor.lower, List.map_drop, h, hcs, ← List.map_drop, List.drop_left]

/-- Whether a number is one depends on what it is written as, and on what comes after it. -/
lemma judge_recased {start stop stop' last : Cursor} {text : List Char} {isFloat : Bool} {value : String}
    (start' : Cursor) (h : judge start text isFloat stop = (.ok value, last)) (hnext : stop'.lower = stop.lower) :
    last = stop ∧ judge start' text isFloat stop' = (.ok value, stop') := by
  have hrest : stop'.rest.map Char.toLower = stop.rest.map Char.toLower := congrArg Cursor.rest hnext
  -- Behind a number no letter may come, and a letter is one in either case.
  have hblind (c : Char) : (Text.isAlphanumeric c.toLower || c.toLower == '_') = (Text.isAlphanumeric c || c == '_') :=
    apply_toLower (p := fun c => Text.isAlphanumeric c || c == '_') (b := true)
      (fun c hc => by simp [Text.isAlphanumeric, isAlphabetic_of_isAlpha hc]) c
  rw [judge] at h ⊢
  split at h
  · cases h
  next hend =>
    have hend' : stop'.rest.head?.filter (fun c => Text.isAlphanumeric c || c == '_') = none := by
      rw [filter_eq_none_iff] at hend ⊢
      rw [← head?_lower_any hblind, hrest, head?_lower_any hblind, hend]
    simp only [hend']
    cases isFloat with
    | false =>
      simp only [Bool.false_eq_true, if_false] at h ⊢
      split at h
      next hvalue => cases h; exact ⟨rfl, if_pos hvalue⟩
      next => cases h
    | true =>
      simp only [if_true] at h ⊢
      cases hvalue : Decimal.readFloat? text with
      | none => rw [hvalue] at h; cases h
      | some x =>
        simp only [hvalue] at h ⊢
        split at h
        next hfinite => cases h; exact ⟨rfl, if_pos hfinite⟩
        next => cases h

/-- A symbol looks at no more of the next character than whether it is a sign of equality or the same again. -/
lemma symbol_congr {next next' : Option Char} (hequals : next' = some '=' ↔ next = some '=')
    (hsame : next' = some c ↔ next = some c) : symbol c next' = symbol c next := by
  simp only [symbol, hequals, hsame]

/-- Parts of the same length at the start of two texts are the same, if the texts are up to there. -/
lemma eq_of_take {as bs : List Char} {n : Nat} (has : as <+: cs) (hbs : bs <+: ds)
    (hlower : bs.map Char.toLower = as.map Char.toLower) (hn : as.length ≤ n) (h : ds.take n = cs.take n) : bs = as := by
  have hlength : bs.length = as.length := by simpa using congrArg List.length hlower
  rw [List.prefix_iff_eq_take.1 has, List.prefix_iff_eq_take.1 hbs, hlength, ← Nat.min_eq_left hn, ← List.take_take, h,
    List.take_take, Nat.min_eq_left hn]

/-- No number begins with a letter. -/
lemma not_isAlpha_of_number (hc : c = '-' ∨ c.isDigit) : ¬ c.isAlpha := by
  rcases hc with rfl | hc
  · decide
  · rw [isAlpha_iff_toNat]
    have hlast : c.toNat ≤ 57 := (Char.isDigit_iff_toNat.1 hc).2
    omega

/-- A number written with the same characters, before text with the same small letters, is the same number. -/
lemma number_recased {text : String}
    (h : (c :: ds).map Char.toLower = (c :: cs).map Char.toLower)
    (hnumber : number ⟨c :: cs, position⟩ = (.ok text, stop))
    (hkept : (c :: ds).take (stop.position - position) = (c :: cs).take (stop.position - position)) :
    ∃ stop', number ⟨c :: ds, position⟩ = (.ok text, stop') ∧ stop'.lower = stop.lower := by
  have hnumeral : ((numeral (c :: ds)).1.map Char.toLower, (numeral (c :: ds)).2) =
      ((numeral (c :: cs)).1.map Char.toLower, (numeral (c :: cs)).2) := by
    rw [← numeral_lower, ← numeral_lower, h]
  obtain ⟨hwritten, hfloat⟩ := Prod.mk.inj hnumeral
  have hlength : (numeral (c :: ds)).1.length = (numeral (c :: cs)).1.length := by
    simpa using congrArg List.length hwritten
  rw [number_eq] at hnumber ⊢
  dsimp only at hnumber ⊢
  set written := (numeral (c :: cs)).1
  set body : Cursor := .advance ⟨c :: cs, position⟩ written.length
  set body' : Cursor := .advance ⟨c :: ds, position⟩ written.length
  have hbody : body'.lower = body.lower := by
    rw [Cursor.lower_advance, Cursor.lower_advance, Cursor.lower, Cursor.lower, h]
  have hsuffix : ((suffixed (numeral (c :: cs)).2 body').1, (suffixed (numeral (c :: cs)).2 body').2.lower) =
      ((suffixed (numeral (c :: cs)).2 body).1, (suffixed (numeral (c :: cs)).2 body).2.lower) := by
    rw [← suffixed_lower, ← suffixed_lower, hbody]
  obtain ⟨hforce, hstop⟩ := Prod.mk.inj hsuffix
  obtain ⟨rfl, hjudge⟩ := judge_recased ⟨c :: ds, position⟩ hnumber hstop
  obtain ⟨used, hpass⟩ := suffixed_passes (numeral (c :: cs)).2 body
  -- The text that is judged is the same because its characters are kept, not because its small letters are.
  have hwritten' : (numeral (c :: ds)).1 = written := by
    refine eq_of_take (isPrefix_numeral c cs) (isPrefix_numeral c ds) hwritten ?_ hkept
    have hle := hpass.position_le
    have hposition : body.position = position + written.length := rfl
    omega
  exact ⟨_, by rw [hwritten', hfloat, hforce]; exact hjudge, hstop⟩

/-- The token of a word in other letters. -/
lemma wordToken_recased {word word' : List Char} (h : word'.map Char.toLower = word.map Char.toLower) (position : Nat) :
    (wordToken word position).Recased (wordToken word' position) := by
  have hlower : Text.toLowerAscii (String.ofList word') = Text.toLowerAscii (String.ofList word) := by
    rw [Text.toLowerAscii_ofList, Text.toLowerAscii_ofList, h]
  have hoperator : wordOperator? (String.ofList word') = wordOperator? (String.ofList word) := by
    rw [wordOperator?, wordOperator?, hlower]
  rw [wordToken, wordToken, hoperator]
  cases wordOperator? (String.ofList word) with
  | some op => exact .refl _
  | none => exact ⟨rfl, rfl, fun hkind => (hkind rfl).elim, hlower⟩

/-- What is read is told by the first character and the one after it, in whichever case they are. -/
lemma scan_cons_recased (afterOperand : Bool) (h : (d :: ds).map Char.toLower = (c :: cs).map Char.toLower)
    (position : Nat) :
    scan afterOperand ⟨d :: ds, position⟩ =
      if c = '\'' ∨ c = '"' then literal .string position (stringBody d position [] (position + 1) ds)
      else if c.isDigit ∨ c = '-' ∧ !afterOperand ∧ cs.head?.any Char.isDigit then
        literal .number position (number ⟨d :: ds, position⟩)
      else if Text.isAlphabetic c || c == '_' then
        (.ok (wordToken (identifier (d :: ds)) position), .advance ⟨d :: ds, position⟩ (identifier (d :: ds)).length)
      else symbolToken ⟨d :: ds, position⟩ d (symbol d ds.head?) := by
  obtain ⟨hd, hds⟩ := List.cons.inj (show d.toLower :: ds.map Char.toLower = c.toLower :: cs.map Char.toLower from h)
  have hfirst {x : Char} (hx : ¬ x.isAlpha) : d = x ↔ c = x := by rw [← toLower_eq_iff hx, hd, toLower_eq_iff hx]
  have hdigit : d.isDigit = c.isDigit := by rw [← isDigit_toLower, hd, isDigit_toLower]
  have hnext : ds.head?.any Char.isDigit = cs.head?.any Char.isDigit := by
    rw [← head?_lower_any isDigit_toLower, hds, head?_lower_any isDigit_toLower]
  have hletter : Text.isAlphabetic d = Text.isAlphabetic c := by
    rw [← Text.isAlphabetic_toLower, hd, Text.isAlphabetic_toLower]
  have hunderscore : (d == '_') = (c == '_') := by
    rw [Bool.eq_iff_iff, beq_iff_eq, beq_iff_eq, hfirst (by decide)]
  rw [scan_cons]
  simp only [hfirst (x := '\'') (by decide), hfirst (x := '"') (by decide), hfirst (x := '-') (by decide), hdigit, hnext,
    hletter, hunderscore]

/-- What is read in other letters where `t` was read up to `stop`: a token that differs from it in the case of
letters only, up to the same place. It is the same token if the characters are the same. -/
inductive Reread (same : Prop) (t : Token) (stop : Cursor) : Except Error Token × Cursor → Prop
  | token {t' : Token} {stop' : Cursor} : t.Recased t' → stop'.lower = stop.lower → (same → t' = t) →
    Reread same t stop (.ok t', stop')

namespace Reread

variable {same : Prop} {t : Token}

/-- A token that is read by a reader of its own is the same, as long as its text is. -/
lemma literal {kind : TokenKind} {text : String} {stop' : Cursor} (h : stop'.lower = stop.lower) :
    Reread same ⟨kind, text, position⟩ stop (literal kind position (.ok text, stop')) :=
  .token (.refl _) h fun _ => rfl

/-- A word is read in either case, and is the same word if its letters are kept. -/
lemma word (h : (d :: ds).map Char.toLower = (c :: cs).map Char.toLower) {n : Nat}
    (hn : n = (identifier (c :: cs)).length) :
    Reread ((d :: ds).take n = (c :: cs).take n) (wordToken (identifier (c :: cs)) position)
      (.advance ⟨c :: cs, position⟩ (identifier (c :: cs)).length)
      (.ok (wordToken (identifier (d :: ds)) position),
        .advance ⟨d :: ds, position⟩ (identifier (d :: ds)).length) := by
  have hidentifier : (identifier (d :: ds)).map Char.toLower = (identifier (c :: cs)).map Char.toLower := by
    rw [← identifier_lower, h, identifier_lower]
  have hlength : (identifier (d :: ds)).length = (identifier (c :: cs)).length := by
    simpa using congrArg List.length hidentifier
  refine .token (wordToken_recased hidentifier _) ?_ fun htake => ?_
  · rw [Cursor.lower_advance, Cursor.lower_advance, Cursor.lower, Cursor.lower, h, hlength]
  · rw [eq_of_take (isPrefix_identifier (c :: cs)) (isPrefix_identifier (d :: ds)) hidentifier (Nat.le_of_eq hn.symm)
      htake]

/-- A symbol has no letters. -/
lemma symbol (h : (c :: ds).map Char.toLower = (c :: cs).map Char.toLower) (hc : ¬ c.isAlpha)
    (hsymbol : symbolToken ⟨c :: cs, position⟩ c (symbol c cs.head?) = (.ok t, stop)) :
    Reread same t stop (symbolToken ⟨c :: ds, position⟩ c (symbol c ds.head?)) := by
  have hds : ds.map Char.toLower = cs.map Char.toLower := (List.cons.inj h).2
  have hsame : Lexer.symbol c ds.head? = Lexer.symbol c cs.head? := by
    refine symbol_congr ?_ ?_
    · rw [← head?_lower_eq_some (by decide), hds, head?_lower_eq_some (by decide)]
    · rw [← head?_lower_eq_some hc, hds, head?_lower_eq_some hc]
  rw [hsame]
  cases hresult : Lexer.symbol c cs.head? with
  | error fault => rw [hresult] at hsymbol; cases congrArg Prod.fst hsymbol
  | ok result =>
    rw [hresult] at hsymbol
    cases hsymbol
    exact .token (.refl _) (by rw [Cursor.lower_advance, Cursor.lower_advance, Cursor.lower, Cursor.lower, h]) fun _ => rfl

end Reread

/-- What a lexer reads at the same place of a text with the same small letters. A string or a number has to be
written with the same characters. -/
lemma scan_recased {afterOperand : Bool} {t : Token} {n : Nat} (h : here'.lower = here.lower)
    (hscan : scan afterOperand here = (.ok t, stop)) (hn : n = stop.position - here.position)
    (hkept : t.kind = .string ∨ t.kind = .number → here'.rest.take n = here.rest.take n) :
    Reread (here'.rest.take n = here.rest.take n) t stop (scan afterOperand here') := by
  obtain ⟨cs, position⟩ := here
  obtain ⟨ds, position'⟩ := here'
  obtain ⟨hrest, rfl⟩ : ds.map Char.toLower = cs.map Char.toLower ∧ position' = position := by
    simpa [Cursor.lower] using h
  cases cs with
  | nil =>
    obtain rfl : ds = [] := by simpa using hrest
    rw [hscan]
    exact .token (.refl t) rfl fun _ => rfl
  | cons c cs =>
    obtain _ | ⟨d, ds⟩ := ds
    · cases hrest
    obtain ⟨hd, hds⟩ := List.cons.inj (show d.toLower :: ds.map Char.toLower = c.toLower :: cs.map Char.toLower from hrest)
    subst hn
    rw [scan_cons] at hscan
    rw [scan_cons_recased afterOperand hrest]
    split at hscan
    next hquote =>
      obtain ⟨text, hbody, rfl⟩ := literal_ok hscan
      -- A quote is no letter, so both spellings begin with the same one. The same goes for digits and
      -- signs below.
      obtain rfl : d = c := eq_of_toLower_eq hd (by rcases hquote with rfl | rfl <;> decide)
      obtain ⟨stop', hbody', hstop'⟩ := stringBody_recased hds hbody (hkept (.inl rfl))
      rw [if_pos hquote, hbody']
      exact .literal hstop'
    next hquote =>
    rw [if_neg hquote]
    split at hscan
    next hnumber =>
      obtain ⟨text, hbody, rfl⟩ := literal_ok hscan
      obtain rfl : d = c := eq_of_toLower_eq hd (not_isAlpha_of_number (hnumber.symm.imp_left And.left))
      obtain ⟨stop', hbody', hstop'⟩ := number_recased hrest hbody (hkept (.inr rfl))
      rw [if_pos hnumber, hbody']
      exact .literal hstop'
    next hnumber =>
    rw [if_neg hnumber]
    split at hscan
    next hword =>
      cases hscan
      rw [if_pos hword]
      exact .word hrest (Nat.add_sub_cancel_left _ _)
    next hword =>
      have hletter : ¬ c.isAlpha := fun hc => hword (by rw [isAlphabetic_of_isAlpha hc, Bool.true_or])
      obtain rfl : d = c := eq_of_toLower_eq hd hletter
      rw [if_neg hword]
      exact .symbol hrest hletter hscan

end Lexer

end EventRules
