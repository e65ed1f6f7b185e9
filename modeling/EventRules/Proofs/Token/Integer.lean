import EventRules.Proofs.Decimal.Integer
import EventRules.Proofs.Token.Accessor

/-!
# Integers in a source

Digits with or without a minus sign, and the letter of an integer or nothing behind them, are read to their end.
They are one number token if they are a 64-bit integer, and otherwise an error that names their first character
(`Lexer.Gives.integer`). Where an operand stands before it, the minus sign is a token of its own
(`Lexer.Gives.minus`).
-/

namespace EventRules

/-- Decimal digits, and behind them the letter of an integer or nothing. -/
structure IsInteger (digits suffix : String) : Prop where
  nonempty : digits ≠ ""
  isDigit : ∀ c ∈ digits.toList, c.isDigit
  suffix_mem : suffix ∈ ["", "L", "l"]

/-- The digits with a minus sign if they are those of a negative number. -/
def signed (negative : Bool) (digits : List Char) : List Char :=
  if negative then '-' :: digits else digits

/-- The number that digits write, its sign included. -/
def signedValue (negative : Bool) (digits : List Char) : Int :=
  if negative then -(Decimal.digitsValue digits) else Decimal.digitsValue digits

/-- A number of that size is a 64-bit integer; there is one more with a minus sign than without. -/
def SizeInRange (negative : Bool) (digits : List Char) : Prop :=
  Decimal.digitsValue digits ≤ if negative then Nat.pow 2 63 else Nat.pow 2 63 - 1

/-- Whether an integer is in range can be computed from its digits. -/
instance (negative : Bool) (digits : List Char) : Decidable (SizeInRange negative digits) :=
  inferInstanceAs (Decidable (_ ≤ _))

variable {digits suffix : List Char} {negative afterOperand : Bool} {k : Nat}

namespace Decimal

/-- Digits with a sign or without are read as the number that they write. -/
lemma readInt64?_signed (hne : digits ≠ []) (hdigits : ∀ c ∈ digits, c.isDigit) (negative : Bool) :
    readInt64? (signed negative digits) = int64Of? (signedValue negative digits) := by
  have hempty := List.isEmpty_eq_false_iff.2 hne
  have hall : digits.all Char.isDigit = true := List.all_eq_true.2 hdigits
  cases negative with
  | true => simp [readInt64?, signed, splitSign, hempty, hall, signedValue]
  | false => simp [readInt64?, signed, splitSign_digits hdigits, hempty, hall, signedValue]

/-- The 64-bit integers go from `-2 ^ 63` to `2 ^ 63 - 1`. -/
lemma inRange_signedValue_iff :
    Int64.minValue.toInt ≤ signedValue negative digits ∧ signedValue negative digits ≤ Int64.maxValue.toInt ↔
      SizeInRange negative digits := by
  have hmin : Int64.minValue.toInt = -2 ^ 63 := rfl
  have hmax : Int64.maxValue.toInt = 2 ^ 63 - 1 := rfl
  rw [hmin, hmax]
  cases negative with
  | true =>
    show _ ≤ -(digitsValue digits : Int) ∧ -(digitsValue digits : Int) ≤ _ ↔ digitsValue digits ≤ 2 ^ 63
    omega
  | false =>
    show _ ≤ (digitsValue digits : Int) ∧ (digitsValue digits : Int) ≤ _ ↔ digitsValue digits ≤ 2 ^ 63 - 1
    omega

/-- Digits in range have a 64-bit integer as their value. -/
lemma int64Of?_signedValue (h : SizeInRange negative digits) :
    ∃ n : Int64, n.toInt = signedValue negative digits ∧ int64Of? (signedValue negative digits) = some n := by
  have hrange := inRange_signedValue_iff.2 h
  have hbelow : signedValue negative digits < 2 ^ 63 := Int.lt_of_le_of_lt hrange.2 (by decide)
  exact ⟨_, Int64.toInt_ofInt_of_le hrange.1 hbelow, if_pos hrange⟩

/-- Digits out of range have none. -/
lemma int64Of?_signedValue_none (h : ¬ SizeInRange negative digits) :
    int64Of? (signedValue negative digits) = none :=
  if_neg (mt inRange_signedValue_iff.1 h)

end Decimal

namespace Lexer

/-- There is no minus sign among digits. -/
lemma minus_notMem (hdigits : ∀ c ∈ digits, c.isDigit) : '-' ∉ digits :=
  fun h => by cases hdigits '-' h

/-- A digit begins neither a string nor a comment and is no blank. -/
lemma plain_of_isDigit {c : Char} (h : c.isDigit) : c ≠ '\'' ∧ c ≠ '"' ∧ c ≠ '/' ∧ Text.isBlank c = false := by
  have hrange : 48 ≤ c.toNat ∧ c.toNat ≤ 57 := Char.isDigit_iff_toNat.1 h
  have hne {d : Char} (hd : d.toNat < 48) : c ≠ d := by
    rintro rfl
    exact absurd hrange.1 (Nat.not_le.2 hd)
  have hlow : c.toNat < 128 := by omega
  refine ⟨hne (by decide), hne (by decide), hne (by decide), ?_⟩
  simp only [Text.isBlank, if_pos hlow, Bool.or_eq_false_iff, Bool.and_eq_false_iff, beq_eq_false_iff_ne,
    decide_eq_false_iff_not, Nat.not_le]
  omega

/-- What is written of an integer is its sign and its digits. -/
lemma numeral_signed (hne : digits ≠ []) (hdigits : ∀ c ∈ digits, c.isDigit) (hsuffix : suffix ∈ [[], ['L'], ['l']])
    (negative : Bool) : numeral (signed negative digits ++ suffix) = (signed negative digits, false) := by
  have hsign : signPart (signed negative digits ++ suffix) = if negative then ['-'] else [] := by
    cases negative with
    | true => rfl
    | false =>
      obtain ⟨d, ds, rfl⟩ := List.exists_cons_of_ne_nil hne
      have hd : d ≠ '-' := fun h => minus_notMem hdigits (h ▸ List.mem_cons_self)
      exact if_neg hd
  have hafter : (signed negative digits ++ suffix).drop (signPart (signed negative digits ++ suffix)).length =
      digits ++ suffix := by
    rw [hsign]
    cases negative <;> rfl
  simp only [List.mem_cons, List.not_mem_nil, or_false] at hsuffix
  have htake : (digits ++ suffix).takeWhile Char.isDigit = digits :=
    takeWhile_head? hdigits (by rcases hsuffix with rfl | rfl | rfl <;> simp)
  have hfraction : fractionPart suffix = [] := by
    rcases hsuffix with rfl | rfl | rfl <;> rfl
  have hexponent : exponentPart suffix = [] := by
    rcases hsuffix with rfl | rfl | rfl <;> rfl
  unfold numeral
  rw [hafter, hsign]
  simp only [htake, List.drop_left, hfraction, List.length_nil, List.drop_zero, hexponent, List.append_nil]
  cases negative <;> rfl

/-- The letter of an integer is skipped and its end is reached. -/
lemma suffixed_integer (hsuffix : suffix ∈ [[], ['L'], ['l']]) (position : Nat) :
    suffixed false ⟨suffix, position⟩ = (false, ⟨[], position + suffix.length⟩) := by
  simp only [List.mem_cons, List.not_mem_nil, or_false] at hsuffix
  rcases hsuffix with rfl | rfl | rfl <;> rfl

/-- What the end of an integer gives: its text, or an error at its first character. -/
def integerText (negative : Bool) (digits : List Char) (k : Nat) : Except Error String :=
  if SizeInRange negative digits then .ok (String.ofList (signed negative digits))
  else .error (.lex k ((signed negative digits).headD '-') .integerOutOfRange)

/-- An integer is read to its end, its suffix included. -/
lemma number_signed (hne : digits ≠ []) (hdigits : ∀ c ∈ digits, c.isDigit) (hsuffix : suffix ∈ [[], ['L'], ['l']])
    (negative : Bool) (k : Nat) :
    number ⟨signed negative digits ++ suffix, k⟩ =
      (integerText negative digits k, ⟨[], k + (signed negative digits ++ suffix).length⟩) := by
  have hhead : (signed negative digits ++ suffix).headD '-' = (signed negative digits).headD '-' := by
    obtain ⟨d, ds, rfl⟩ := List.exists_cons_of_ne_nil hne
    cases negative <;> rfl
  rw [number_eq]
  simp only [numeral_signed hne hdigits hsuffix, Cursor.advance, List.drop_left, suffixed_integer hsuffix, judge,
    List.head?_nil, Option.filter_none, Bool.or_self, Bool.false_eq_true, if_false, hhead,
    Decimal.readInt64?_signed hne hdigits, List.length_append, Nat.add_assoc, integerText]
  by_cases hrange : SizeInRange negative digits
  · obtain ⟨n, -, hn⟩ := Decimal.int64Of?_signedValue hrange
    rw [hn, if_pos hrange]
    rfl
  · rw [Decimal.int64Of?_signedValue_none hrange, if_neg hrange]
    rfl

/-- Where an integer stands, its number token is read. A minus sign belongs to it unless an operand stands before
it. -/
lemma next_integer (hne : digits ≠ []) (hdigits : ∀ c ∈ digits, c.isDigit) (hsuffix : suffix ∈ [[], ['L'], ['l']])
    (hminus : negative = true → afterOperand = false) :
    (startAt (signed negative digits ++ suffix) k afterOperand).next =
      match integerText negative digits k with
      | .ok text => (.ok ⟨.number, text, k⟩, startAt [] (k + (signed negative digits ++ suffix).length) true)
      | .error e => (.error e, startAt [] (k + (signed negative digits ++ suffix).length) afterOperand) := by
  obtain ⟨d, ds, rfl⟩ := List.exists_cons_of_ne_nil hne
  have hd : d.isDigit := hdigits d List.mem_cons_self
  obtain ⟨c, cs, hcs, hc, hnumber⟩ : ∃ c cs, signed negative (d :: ds) ++ suffix = c :: cs ∧ (c = '-' ∨ c.isDigit) ∧
      (c.isDigit ∨ c = '-' ∧ !afterOperand ∧ cs.head?.any Char.isDigit) := by
    cases negative with
    | true => exact ⟨'-', d :: ds ++ suffix, rfl, .inl rfl, .inr ⟨rfl, by simp [hminus rfl, hd]⟩⟩
    | false => exact ⟨d, ds ++ suffix, rfl, .inr hd, .inl hd⟩
  have hplain : c ≠ '\'' ∧ c ≠ '"' ∧ c ≠ '/' ∧ Text.isBlank c = false := by
    rcases hc with rfl | hc
    · decide
    · exact plain_of_isDigit hc
  have hgap : skipGap .blank k (signed negative (d :: ds) ++ suffix) = (.ok (), ⟨c :: cs, k⟩) := by
    rw [hcs]
    exact skipGap_settled ⟨hplain.2.2.2, fun h => (hplain.2.2.1 h).elim⟩
  have hscan : scan afterOperand ⟨c :: cs, k⟩ = literal .number k (integerText negative (d :: ds) k,
      ⟨[], k + (signed negative (d :: ds) ++ suffix).length⟩) := by
    rw [scan_cons, if_neg (not_or.2 ⟨hplain.1, hplain.2.1⟩), if_pos hnumber, ← hcs, number_signed hne hdigits hsuffix]
  cases htext : integerText negative (d :: ds) k with
  | ok text =>
    rw [htext] at hscan
    exact next_ok.2 ⟨_, hgap, hscan, rfl⟩
  | error e =>
    rw [htext] at hscan
    exact next_error hgap hscan

/-- To the end of an integer there is one number token, or an error at its first character. -/
lemma Gives.integer (hne : digits ≠ []) (hdigits : ∀ c ∈ digits, c.isDigit) (hsuffix : suffix ∈ [[], ['L'], ['l']])
    (hminus : negative = true → afterOperand = false) :
    (startAt (signed negative digits ++ suffix) k afterOperand).Gives ((integerText negative digits k).map fun text =>
      [⟨.number, text, k⟩, .eof (k + (signed negative digits ++ suffix).length)]) := by
  have hnext := next_integer (k := k) hne hdigits hsuffix hminus
  cases htext : integerText negative digits k with
  | ok text =>
    rw [htext] at hnext
    exact .token hnext nofun (.eof rfl rfl)
  | error e =>
    rw [htext] at hnext
    exact .error hnext

/-- A minus sign behind an operand is an operator. -/
lemma Gives.minus {result : Except Error (List Token)} {cs : List Char} (h : (startAt cs (k + 1) false).Gives result) :
    (startAt ('-' :: cs) k true).Gives (result.map (⟨.operator, "-", k⟩ :: ·)) :=
  .token rfl nofun h

end Lexer

end EventRules
