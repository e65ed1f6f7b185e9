import EventRules.Expr.Parser
import Mathlib.Tactic.Lemma

/-!
# Reading integers back

The decimal text of a 64-bit integer, a minus sign included, reads back as the integer
(`readInt64?_toString`), and a number token with that text has it as its value
(`numberValue?_toString`).
-/

namespace EventRules

namespace Decimal

/-- The digits of a number have the number as their value. -/
lemma digitsValue_toDigits (n : Nat) : digitsValue (Nat.toDigits 10 n) = n := by
  have h : digitsValue (Nat.toDigits 10 n) = Nat.ofDigitChars 10 (Nat.toDigits 10 n) 0 :=
    Nat.ofDigitChars_eq_foldl.symm
  rw [h, Nat.ofDigitChars_ten_toDigits]

/-- Every 64-bit integer is the one of its value. -/
lemma int64Of?_toInt (n : Int64) : int64Of? n.toInt = some n := by
  rw [int64Of?, if_pos ⟨n.minValue_le_toInt, n.toInt_le⟩, Int64.ofInt_toInt]

/-- The digits of a number are digits. -/
lemma isDigit_toDigits (n : Nat) : ∀ c ∈ Nat.toDigits 10 n, c.isDigit :=
  fun _ hc => Nat.isDigit_of_mem_toDigits (by decide) (by decide) hc

/-- The text of an integer is its sign, if it is negative, and its digits. -/
lemma toList_toString (n : Int) :
    (toString n).toList = (if n < 0 then ['-'] else []) ++ Nat.toDigits 10 n.natAbs := by
  cases n with
  | ofNat n =>
    show (Nat.repr n).toList = _
    simp
  | negSucc n =>
    show ("-" ++ Nat.repr (n + 1)).toList = _
    simp [Int.negSucc_lt_zero]

/-- Digits alone have no sign. -/
lemma splitSign_digits {cs : List Char} (h : ∀ c ∈ cs, c.isDigit) : splitSign cs = (false, cs) := by
  unfold splitSign
  split
  · exact absurd (h '-' List.mem_cons_self) (by decide)
  · exact absurd (h '+' List.mem_cons_self) (by decide)
  · rfl

/-- The text of a 64-bit integer reads back as the integer. -/
lemma readInt64?_toString (n : Int64) : readInt64? (toString n.toInt).toList = some n := by
  have hsize : (n.toInt.natAbs : Int) = if n.toInt < 0 then -n.toInt else n.toInt := by omega
  rw [toList_toString]
  generalize n.toInt.natAbs = size at hsize ⊢
  have hdigits := isDigit_toDigits size
  have hall : (Nat.toDigits 10 size).all Char.isDigit = true := List.all_eq_true.2 hdigits
  split
  case isTrue hneg =>
    have hsign : -(size : Int) = n.toInt := by
      rw [hsize, if_pos hneg, Int.neg_neg]
    simp [readInt64?, splitSign, hall, digitsValue_toDigits, hsign, int64Of?_toInt]
  case isFalse hpos =>
    rw [if_neg hpos] at hsize
    simp [readInt64?, splitSign_digits hdigits, hall, digitsValue_toDigits, hsize, int64Of?_toInt]

end Decimal

/-- A number token with the text of an integer has that value. -/
lemma Parser.numberValue?_toString (n : Int64) :
    Parser.numberValue? (toString n.toInt) = some (.int n) := by
  have hfloat : ((toString n.toInt).toList.any fun c => c == '.' || c == 'e' || c == 'E') = false := by
    rw [List.any_eq_false]
    intro c hc
    rw [Decimal.toList_toString, List.mem_append] at hc
    have hd : c = '-' ∨ c.isDigit := by
      rcases hc with hc | hc
      · split at hc <;> simp_all
      · exact .inr (Decimal.isDigit_toDigits _ c hc)
    intro h
    simp only [Bool.or_eq_true, beq_iff_eq] at h
    rcases h with (rfl | rfl) | rfl <;> revert hd <;> decide
  simp only [Parser.numberValue?, hfloat, Decimal.readInt64?_toString]
  rfl

end EventRules
