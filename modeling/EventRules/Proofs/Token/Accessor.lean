import EventRules.Evaluation.Resolver
import EventRules.Proofs.Text.CharClass
import EventRules.Proofs.Token.Run

/-!
# Names with a quoted key

A name with a quoted key in brackets behind it is one token, whatever the key, as long as the quote is
not in it (`tokenize_withKey`).
-/

namespace EventRules

/-- A word of ASCII letters, digits and underscores that does not begin with a digit. -/
def IsPlainName (name : String) : Prop :=
  name.toList.all (fun c => c.isAlphanum || c == '_') ∧ name.toList.head?.any (!·.isDigit)

/-- Whether a name is plain is seen from its characters. -/
instance (name : String) : Decidable (IsPlainName name) :=
  inferInstanceAs (Decidable (_ ∧ _))

/-- The name with a key in single quotes and brackets behind it. -/
def withKey (name key : String) : String :=
  name ++ "['" ++ key ++ "']"

variable {name key : String}

/-- The text of a name with a key, character by character. -/
lemma toList_withKey : (withKey name key).toList = name.toList ++ '[' :: '\'' :: (key.toList ++ ['\'', ']']) := by
  simp [withKey]

/-- What is taken of a text ends where the next character is not to be taken, or none is left. -/
lemma takeWhile_head? {p : Char → Bool} {cs more : List Char} (h : ∀ c ∈ cs, p c)
    (hmore : ∀ d ∈ more.head?, p d = false) : (cs ++ more).takeWhile p = cs := by
  rw [List.takeWhile_append_of_pos h]
  cases more with
  | nil => simp
  | cons d more => rw [List.takeWhile_cons_of_neg (by simp [hmore d rfl]), List.append_nil]

/-- What is taken stops at a character that does not pass. -/
lemma takeWhile_stop {p : Char → Bool} {cs more : List Char} {d : Char} (h : ∀ c ∈ cs, p c) (hd : p d = false) :
    (cs ++ d :: more).takeWhile p = cs :=
  takeWhile_head? h fun _ heq => Option.some.inj heq ▸ hd

namespace IsPlainName

/-- A plain name has letters, digits and underscores in it. -/
lemma mem (h : IsPlainName name) {c : Char} (hc : c ∈ name.toList) : c.isAlphanum ∨ c = '_' := by
  simpa using List.all_eq_true.1 h.1 c hc

/-- All characters of a plain name may be in an identifier. -/
lemma isIdentifierChar (h : IsPlainName name) : ∀ c ∈ name.toList, Lexer.isIdentifierChar c := by
  intro c hc
  have hclass := h.mem hc
  rw [Char.isAlphanum, Bool.or_eq_true] at hclass
  obtain (halpha | hdigit) | rfl := hclass
  · exact Lexer.isIdentifierChar_of_word (by simp [isAlphabetic_of_isAlpha halpha])
  · simp [Lexer.isIdentifierChar, Text.isAlphanumeric, isNumeric_of_isDigit hdigit]
  · decide

/-- No character of a plain name begins a segment of a path. -/
lemma startsSegment (h : IsPlainName name) : ∀ c ∈ name.toList, !Path.startsSegment c := by
  intro c hc
  have hclass := h.mem hc
  rw [Path.startsSegment]
  have hdot : c ≠ '.' := by
    rintro rfl
    exact absurd hclass (by decide)
  have hbracket : c ≠ '[' := by
    rintro rfl
    exact absurd hclass (by decide)
  simp [hdot, hbracket]

/-- The characters of a plain name take one byte each. -/
lemma utf8Size (h : IsPlainName name) {c : Char} (hc : c ∈ name.toList) : c.utf8Size = 1 := by
  have hascii : c.toNat < 128 := by
    have hclass := h.mem hc
    rw [Char.isAlphanum, Bool.or_eq_true, isAlpha_iff_toNat, Char.isDigit_iff_toNat] at hclass
    obtain (halpha | hdigit) | rfl := hclass
    · omega
    · have hlast : '9'.toNat = 57 := rfl
      omega
    · decide
  exact Char.utf8Size_eq_one_iff.2 (UInt32.le_iff_toNat_le.2 (Nat.le_of_lt_succ hascii))

/-- A plain name begins with a letter or an underscore. -/
lemma head (h : IsPlainName name) : ∃ c cs, name.toList = c :: cs ∧ (Text.isAlphabetic c || c == '_') := by
  obtain ⟨c, hhead, hdigit⟩ := (Option.any_eq_true _ _).1 h.2
  rw [Bool.not_eq_true'] at hdigit
  obtain ⟨cs, hcs⟩ := List.head?_eq_some_iff.1 hhead
  have hclass := h.mem (hcs ▸ List.mem_cons_self : c ∈ name.toList)
  rw [Char.isAlphanum, hdigit, Bool.or_false] at hclass
  refine ⟨c, cs, hcs, ?_⟩
  obtain halpha | rfl := hclass
  · simp [isAlphabetic_of_isAlpha halpha]
  · decide

end IsPlainName

/-- Lower case leaves dots and brackets where they are, so a text with one is no word of letters. -/
lemma toLowerAscii_ne {text word : String} {mark : Char} (hmark : Path.startsSegment mark) (htext : mark ∈ text.toList)
    (hword : mark ∉ word.toList) : Text.toLowerAscii text ≠ word := by
  have hlower : mark.toLower = mark := by
    simp only [Path.startsSegment, Bool.or_eq_true, decide_eq_true_eq] at hmark
    obtain rfl | rfl := hmark <;> rfl
  rintro rfl
  refine hword ?_
  rw [Text.toLowerAscii, String.toList_ofList]
  exact hlower ▸ List.mem_map_of_mem htext

/-- A name with a key has a bracket in it. -/
lemma bracket_mem_withKey : '[' ∈ (withKey name key).toList := by
  simp [toList_withKey]

namespace Lexer

/-- A text with a dot or a bracket is no word operator. -/
lemma wordOperator?_mark {text : String} {mark : Char} (hmark : Path.startsSegment mark) (h : mark ∈ text.toList) :
    wordOperator? text = none := by
  have hne {word : String} (hword : word.toList.all (!Path.startsSegment ·)) : Text.toLowerAscii text ≠ word := by
    refine toLowerAscii_ne hmark h fun hmem => ?_
    have hplain := List.all_eq_true.1 hword mark hmem
    rw [hmark] at hplain
    cases hplain
  rw [wordOperator?]
  split
  case h_6 => rfl
  all_goals exact absurd ‹_› (hne (by decide))

/-- A key between quotes is an accessor up to the bracket behind the second quote. -/
lemma accessor?_key {key : List Char} (hkey : '\'' ∉ key) (more : List Char) :
    accessor? ('[' :: '\'' :: (key ++ '\'' :: ']' :: more)) = some ('[' :: '\'' :: (key ++ ['\'', ']'])) := by
  have htake : (key ++ '\'' :: ']' :: more).takeWhile (· ≠ '\'') = key :=
    takeWhile_stop (fun c hc => decide_eq_true fun h => hkey (h ▸ hc)) rfl
  have hinside : inside? '\'' (key ++ '\'' :: ']' :: more) = some ('\'' :: key ++ ['\'']) := by
    simp only [inside?, htake]
    simp
  rw [accessor?_eq, hinside, Option.bind_some, if_pos]
  · simp
  · simp

/-- A name with a key is read as a whole. -/
lemma identifier_withKey (hname : IsPlainName name) (hkey : '\'' ∉ key.toList) :
    identifier (withKey name key).toList = (withKey name key).toList := by
  have hdotted : (withKey name key).toList.takeWhile isIdentifierChar = name.toList := by
    rw [toList_withKey]
    exact takeWhile_stop hname.isIdentifierChar (by decide)
  simp only [identifier, hdotted]
  rw [toList_withKey, List.drop_left, List.length_cons, accessors, accessor?_key hkey []]
  simp only [List.drop_length]
  cases List.length _ <;> simp [accessors, accessor?]

section

variable {c : Char} {cs : List Char} {position : Nat}

/-- Letters and underscores come after the digits and most marks. -/
lemma le_of_letter (hc : Text.isAlphabetic c || c == '_') : 65 ≤ c.toNat := by
  by_cases hascii : c.toNat < 128
  · rw [Text.isAlphabetic, if_pos hascii, Bool.or_eq_true, isAlpha_iff_toNat] at hc
    obtain halpha | hunderscore := hc
    · omega
    · obtain rfl := beq_iff_eq.1 hunderscore
      decide
  · omega

/-- A letter or underscore is none of the marks before the letters. -/
lemma ne_of_letter {d : Char} (hc : Text.isAlphabetic c || c == '_') (hd : d.toNat < 65) : c ≠ d := by
  rintro rfl
  exact absurd (le_of_letter hc) (Nat.not_le.2 hd)

/-- A letter is no blank and begins no comment. -/
lemma settled_letter (hc : Text.isAlphabetic c || c == '_') : Settled (c :: cs) := by
  refine ⟨?_, fun hslash => (ne_of_letter hc (by decide) hslash).elim⟩
  obtain halpha | hunderscore := Bool.or_eq_true_iff.1 hc
  · exact Text.isBlank_of_isAlphabetic halpha
  · obtain rfl := beq_iff_eq.1 hunderscore
    decide

/-- Where a letter or an underscore stands, a word is read. -/
lemma scan_letter (hc : Text.isAlphabetic c || c == '_') :
    scan false ⟨c :: cs, position⟩ =
      (.ok (wordToken (identifier (c :: cs)) position),
        Cursor.advance ⟨c :: cs, position⟩ (identifier (c :: cs)).length) := by
  have hquote : ¬ (c = '\'' ∨ c = '"') := not_or.2 ⟨ne_of_letter hc (by decide), ne_of_letter hc (by decide)⟩
  have hnumber : ¬ (c.isDigit ∨ c = '-' ∧ !false ∧ cs.head?.any Char.isDigit) := by
    rintro (hdigit | ⟨hminus, -⟩)
    · have hletter := le_of_letter hc
      have hlast : c.toNat ≤ 57 := (Char.isDigit_iff_toNat.1 hdigit).2
      omega
    · exact ne_of_letter hc (by decide) hminus
  rw [scan_cons, if_neg hquote, if_neg hnumber, if_pos hc]

end

/-- The name with its key is one token. -/
lemma tokenize_withKey (hname : IsPlainName name) (hkey : '\'' ∉ key.toList) :
    tokenize (withKey name key) =
      .ok [⟨.identifier, withKey name key, 0⟩, Token.eof (withKey name key).length] := by
  obtain ⟨c, cs, hcs, hc⟩ := hname.head
  obtain ⟨more, htext⟩ : ∃ more, (withKey name key).toList = c :: more :=
    ⟨_, by rw [toList_withKey, hcs, List.cons_append]⟩
  have hsettled : Settled (withKey name key).toList := htext ▸ settled_letter hc
  have hscan : scan false ⟨(withKey name key).toList, 0⟩ =
      (.ok ⟨.identifier, withKey name key, 0⟩, ⟨[], (withKey name key).length⟩) := by
    have hidentifier := identifier_withKey hname hkey
    rw [htext] at hidentifier
    rw [htext, scan_letter hc, hidentifier, ← htext, wordToken, String.ofList_toList,
      wordOperator?_mark rfl bracket_mem_withKey]
    simp [Cursor.advance, String.length_toList]
  let t : Token := ⟨.identifier, withKey name key, 0⟩
  have hfirst : (ofSource (withKey name key)).next =
      (.ok t, startAt [] (withKey name key).length t.endsOperand) :=
    next_ok.2 ⟨_, skipGap_settled hsettled, hscan, rfl⟩
  have hlast : (startAt [] (withKey name key).length t.endsOperand).next =
      (.ok (.eof (withKey name key).length), startAt [] (withKey name key).length false) := rfl
  exact tokenize_eq_of_gives (.token hfirst (by simp [t]) (.eof hlast rfl))

end Lexer

end EventRules
