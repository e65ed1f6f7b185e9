import EventRules.Proofs.Text.LetterCase
import EventRules.Proofs.Token.Run

/-!
# Texts between quotes

A text can be written between quotes in many ways, for each of its characters can be spelled in up to three
(`Spells`, `Spelling`): as it is, as a backslash and a letter or mark, or by the four hexadecimal digits of its
code. However it is written, it is read back as one token with that text (`tokenize_quoted`).
-/

namespace EventRules

namespace Text

/-! ## Hexadecimal digits -/

/-- A hexadecimal digit is a decimal one, or a letter of either case. -/
lemma hexDigit?_eq (c : Char) :
    hexDigit? c = if 48 ≤ c.toNat ∧ c.toNat ≤ 57 then some (c.toNat - 48)
      else if 97 ≤ c.toNat ∧ c.toNat ≤ 102 then some (c.toNat - 97 + 10)
      else if 65 ≤ c.toNat ∧ c.toNat ≤ 70 then some (c.toNat - 65 + 10)
      else none := by
  have hle (a b : Char) : a ≤ b ↔ a.toNat ≤ b.toNat := UInt32.le_iff_toNat_le
  simp only [hexDigit?, Char.isDigit_iff_toNat, hle]
  rfl

/-- The case of a hexadecimal digit does not matter. -/
lemma hexDigit?_toLower (c : Char) : hexDigit? c.toLower = hexDigit? c := by
  rw [hexDigit?_eq, hexDigit?_eq, toNat_toLower]
  grind

/-- The digit for a number below sixteen is read as that number. -/
lemma hexDigit?_digitChar {d : Nat} (hd : d < 16) : hexDigit? d.digitChar = some d := by
  have hall : ∀ d < 16, hexDigit? (Nat.digitChar d) = some d := by decide
  exact hall d hd

variable {cs : List Char} {n : Nat}

/-- Hexadecimal digits are read alike in small and in capital letters. -/
lemma hexValue?_toLower (cs : List Char) : hexValue? (cs.map Char.toLower) = hexValue? cs := by
  have hdigits : hexDigit? ∘ Char.toLower = hexDigit? := funext hexDigit?_toLower
  rw [hexValue?, List.mapM_map, hdigits, hexValue?]

/-- A further digit is worth its value, and all before it sixteen times as much. -/
lemma hexValue?_concat {d : Nat} (hcs : hexValue? cs = some n) (hd : d < 16) :
    hexValue? (cs ++ [d.digitChar]) = some (16 * n + d) := by
  obtain ⟨ds, hds, rfl⟩ := Option.map_eq_some_iff.1 hcs
  simp [hexValue?, List.mapM_append, hds, hexDigit?_digitChar hd]

/-- The hexadecimal digits of a number are read as that number. -/
lemma hexValue?_hexDigits (n : Nat) : hexValue? (hexDigits n) = some n := by
  -- The last digit is split off, as it is where the digits are made.
  induction n using Nat.strongRecOn with
  | ind n ih =>
    rw [hexDigits, Nat.toDigits_eq_if (by decide)]
    split
    case isTrue hsmall => simp [hexValue?, hexDigit?_digitChar hsmall]
    case isFalse hlarge =>
      have hvalue := hexValue?_concat (ih (n / 16) (by omega)) (Nat.mod_lt n (show 16 > 0 by decide))
      rw [hexDigits, Nat.div_add_mod] at hvalue
      exact hvalue

/-- Zeros before the digits change nothing. -/
lemma hexValue?_leftpad (width : Nat) (cs : List Char) : hexValue? (cs.leftpad width '0') = hexValue? cs := by
  have hzero (cs : List Char) : hexValue? ('0' :: cs) = hexValue? cs := by
    rw [hexValue?, List.mapM_cons, show hexDigit? '0' = some 0 from rfl, hexValue?]
    cases cs.mapM hexDigit? <;> rfl
  rw [List.leftpad]
  induction width - cs.length with
  | zero => rfl
  | succ k ih => rw [List.replicate_succ, List.cons_append, hzero, ih]

/-- A character is the one with its own code. -/
lemma charOfCode?_toNat (c : Char) : charOfCode? c.toNat = some c := by
  have hvalid : c.toNat < 55296 ∨ 57343 < c.toNat ∧ c.toNat < 1114112 := c.valid
  have hsurrogate : isSurrogate c.toNat = false := by
    simp only [isSurrogate, Bool.and_eq_false_iff, decide_eq_false_iff_not]
    omega
  have hrange : c.toNat ≤ 0x10FFFF := by omega
  simp only [charOfCode?, hsurrogate, decide_eq_true hrange, Bool.not_false, Bool.and_self, if_true, Char.ofNat_toNat]

end Text

/-! ## Spellings -/

/-- The characters with a short escape, each with the character that stands for it behind a backslash. -/
def shortEscapes : List (Char × Char) :=
  [('\\', '\\'), ('\'', '\''), ('"', '"'), ('\n', 'n'), ('\r', 'r'), ('\t', 't')]

/-- The ways to spell a character between quotes. -/
inductive Spells (quote c : Char) : List Char → Prop
  | raw : c ≠ quote → c ≠ '\\' → Spells quote c [c]
  | short {letter : Char} : (c, letter) ∈ shortEscapes → Spells quote c ['\\', letter]
  /-- The four digits of the code, each in either case. -/
  | unicode {digits : List Char} : c.toNat < 0x10000 →
    digits.map Char.toLower = (Text.hexDigits c.toNat).leftpad 4 '0' → Spells quote c ('\\' :: 'u' :: digits)

/-- The ways to write a text between quotes, each character spelled in one of its ways. -/
inductive Spelling (quote : Char) : (text written : List Char) → Prop
  | nil : Spelling quote [] []
  | cons {c : Char} {spelled text written : List Char} : Spells quote c spelled → Spelling quote text written →
    Spelling quote (c :: text) (spelled ++ written)

namespace Lexer

variable {quote c : Char} {start position : Nat} {read cs rest text written spelled : List Char}

/-- The code of a character below U+10000 has four digits at most, so that zeros before them make it four. -/
lemma length_codeDigits (hc : c.toNat < 0x10000)
    (hcs : cs.map Char.toLower = (Text.hexDigits c.toNat).leftpad 4 '0') : cs.length = 4 := by
  have hdigits : (Text.hexDigits c.toNat).length ≤ 4 := (Nat.length_toDigits_le_iff (by decide) (by decide)).2 hc
  rw [← List.length_map Char.toLower, hcs, List.length_leftpad]
  exact Nat.max_eq_left hdigits

/-- A character by its code. -/
lemma stringBody_unicode (hquote : '\\' ≠ quote) (hc : c.toNat < 0x10000)
    (hcs : cs.map Char.toLower = (Text.hexDigits c.toNat).leftpad 4 '0') :
    stringBody quote start read position ('\\' :: 'u' :: (cs ++ rest)) =
      stringBody quote start (c :: read) (position + 6) rest := by
  have hvalue : Text.hexValue? cs = some c.toNat := by
    rw [← Text.hexValue?_toLower, hcs, Text.hexValue?_leftpad, Text.hexValue?_hexDigits]
  match cs, length_codeDigits hc hcs with
  | [_, _, _, _], _ =>
    simp only [List.cons_append, List.nil_append]
    rw [stringBody.eq_def]
    simp only [if_neg hquote, if_true, hvalue, Text.charOfCode?_toNat]

/-- Each way to spell a character is read as the character. -/
lemma stringBody_spells (hquote : quote = '\'' ∨ quote = '"') (h : Spells quote c spelled) :
    stringBody quote start read position (spelled ++ rest) =
      stringBody quote start (c :: read) (position + spelled.length) rest := by
  have hescape : '\\' ≠ quote := by
    rintro rfl
    revert hquote
    decide
  cases h with
  | raw hne hbackslash => exact stringBody_plain hne hbackslash
  | @short letter hmem =>
    have hall : ∀ pair ∈ shortEscapes, pair.2 ≠ 'u' ∧ escapeMeaning pair.2 = [pair.1] := by decide
    obtain ⟨hletter, hmeaning⟩ := hall _ hmem
    rw [List.cons_append, List.cons_append, List.nil_append, stringBody_escape hescape hletter, hmeaning]
    rfl
  | @unicode digits hc hdigits =>
    rw [List.cons_append, List.cons_append, stringBody_unicode hescape hc hdigits, List.length_cons,
      List.length_cons, length_codeDigits hc hdigits]

/-- A text is read back from each of its spellings, up to the closing quote. -/
lemma stringBody_spelling (hquote : quote = '\'' ∨ quote = '"') (h : Spelling quote text written) :
    stringBody quote start read position (written ++ quote :: rest) =
      (.ok (String.ofList (read.reverse ++ text)), ⟨rest, position + written.length + 1⟩) := by
  induction h generalizing read position with
  | nil => rw [List.nil_append, List.append_nil, stringBody_quote, List.length_nil]
  | @cons c spelled text written hspells _ ih =>
    rw [List.append_assoc, stringBody_spells hquote hspells, ih, List.reverse_cons, List.append_assoc,
      List.singleton_append, List.length_append, Nat.add_assoc position]

end Lexer

/-- Between quotes of either kind a text is read back from every way of writing it, as one token. -/
theorem tokenize_quoted {quote : Char} {text written : String} (hquote : quote = '\'' ∨ quote = '"')
    (h : Spelling quote text.toList written.toList) :
    let source := String.singleton quote ++ written ++ String.singleton quote
    tokenize source = .ok [⟨.string, text, 0⟩, .eof source.length] := by
  intro source
  have hsource : source.toList = quote :: (written.toList ++ [quote]) := by simp [source]
  have hlength : source.length = 0 + 1 + written.toList.length + 1 := by
    rw [← String.length_toList, hsource]
    simp
    omega
  have hbody : Lexer.stringBody quote 0 [] (0 + 1) (written.toList ++ [quote]) =
      (.ok (String.ofList text.toList), ⟨[], source.length⟩) := by
    rw [Lexer.stringBody_spelling hquote h, hlength]
    rfl
  have hscan : Lexer.scan false ⟨source.toList, 0⟩ = (.ok ⟨.string, text, 0⟩, ⟨[], source.length⟩) := by
    rw [hsource, Lexer.scan_cons, if_pos hquote, hbody, String.ofList_toList]
    rfl
  have hsettled : Lexer.Settled source.toList := by
    rw [hsource]
    obtain rfl | rfl := hquote <;> exact ⟨rfl, nofun⟩
  have hfirst : (Lexer.ofSource source).next =
      (.ok ⟨.string, text, 0⟩, Lexer.startAt [] source.length true) :=
    Lexer.next_ok.2 ⟨_, Lexer.skipGap_settled hsettled, hscan, rfl⟩
  exact tokenize_eq_of_gives (.token hfirst nofun (.eof rfl rfl))

/-- The quote by its code, a letter by its code in digits of both cases, and a line feed by its escape; the other
quote is as it is. -/
theorem tokenize_quoted_mixed :
    let text := "'\"ê\n"
    let written := "\\u0027\"\\u00Ea\\n"
    ('\'' = '\'' ∨ '\'' = '"') ∧ Spelling '\'' text.toList written.toList ∧
      tokenize "'\\u0027\"\\u00Ea\\n'" = .ok [⟨.string, text, 0⟩, .eof 17] := by
  intro text written
  have hcode : Spells '\'' '\'' ['\\', 'u', '0', '0', '2', '7'] := .unicode (by decide) (by decide)
  have hother : Spells '\'' '"' ['"'] := .raw (by decide) (by decide)
  have hmixed : Spells '\'' 'ê' ['\\', 'u', '0', '0', 'E', 'a'] := .unicode (by decide) (by decide)
  have hline : Spells '\'' '\n' ['\\', 'n'] := .short (by decide)
  have htext : text.toList = ['\'', '"', 'ê', '\n'] := by decide
  have hwritten : written.toList =
      ['\\', 'u', '0', '0', '2', '7'] ++ (['"'] ++ (['\\', 'u', '0', '0', 'E', 'a'] ++ (['\\', 'n'] ++ []))) := by
    decide
  have hspelling : Spelling '\'' text.toList written.toList := by
    rw [htext, hwritten]
    exact .cons hcode (.cons hother (.cons hmixed (.cons hline .nil)))
  have hsource : String.singleton '\'' ++ written ++ String.singleton '\'' = "'\\u0027\"\\u00Ea\\n'" := by decide
  have htokens := tokenize_quoted (.inl rfl) hspelling
  rw [hsource] at htokens
  exact ⟨.inl rfl, hspelling, htokens⟩

end EventRules
