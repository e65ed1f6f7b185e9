import EventRules.Decimal.Reader
import Mathlib.Tactic.Lemma

/-!
# Numerals

The texts of natural numbers are decimal digits, with or without a plus sign (`Numeral`). Exactly these are read, as
far as the number is below a bound (`readNatBelow?_eq_some`).
-/

namespace EventRules.Decimal

variable {bound n : Nat} {cs : List Char}

/-- The characters write the number. -/
inductive Numeral : List Char → Nat → Prop
  | plain {cs : List Char} : cs ≠ [] → (∀ c ∈ cs, c.isDigit) → Numeral cs (digitsValue cs)
  | plus {cs : List Char} : cs ≠ [] → (∀ c ∈ cs, c.isDigit) → Numeral ('+' :: cs) (digitsValue cs)

/-- Digits with a value below the bound are read as that value. -/
lemma readNatBelow?_digits (hne : cs ≠ []) (hdigits : ∀ c ∈ cs, c.isDigit) (hlt : digitsValue cs < bound) :
    readNatBelow? bound cs = some (digitsValue cs) := by
  have hall : cs.all Char.isDigit = true := List.all_eq_true.2 hdigits
  unfold readNatBelow?
  split
  · exact absurd (hdigits '+' List.mem_cons_self) (by decide)
  · simp [hne, hall, hlt]

/-- What is read from digits is their value, and below the bound. -/
lemma of_readDigits {digits : List Char} (h : (if digits.isEmpty || !digits.all Char.isDigit then none
    else if digitsValue digits < bound then some (digitsValue digits) else none) = some n) :
    (digits ≠ [] ∧ ∀ c ∈ digits, c.isDigit) ∧ digitsValue digits = n ∧ n < bound := by
  split at h
  case isTrue => cases h
  case isFalse hdigits =>
    obtain ⟨hlt, heq⟩ := Option.ite_none_right_eq_some.1 h
    cases heq
    rw [Bool.or_eq_true, not_or, List.isEmpty_iff, Bool.not_eq_true', Bool.not_eq_false, List.all_eq_true] at hdigits
    exact ⟨hdigits, rfl, hlt⟩

/-- A numeral below the bound is read as its value, and nothing else is read. -/
lemma readNatBelow?_eq_some : readNatBelow? bound cs = some n ↔ Numeral cs n ∧ n < bound := by
  constructor
  · intro h
    unfold readNatBelow? at h
    split at h
    case h_1 rest =>
      obtain ⟨⟨hne, hdigits⟩, rfl, hlt⟩ := of_readDigits h
      exact ⟨.plus hne hdigits, hlt⟩
    case h_2 =>
      obtain ⟨⟨hne, hdigits⟩, rfl, hlt⟩ := of_readDigits h
      exact ⟨.plain hne hdigits, hlt⟩
  · rintro ⟨hnumeral, hlt⟩
    cases hnumeral with
    | plain hne hdigits => exact readNatBelow?_digits hne hdigits hlt
    | plus hne hdigits =>
      have hall := List.all_eq_true.2 hdigits
      simp [readNatBelow?, hne, hall, hlt]

end EventRules.Decimal
