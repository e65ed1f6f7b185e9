import EventRules.Proofs.Text.CharClass
import EventRules.Text.Casing

/-!
# Letters in either case

To write the letters of ASCII small changes no class of characters that reading a source asks for: a letter stays a
letter, and all else stays what it is. So what is asked of a character is the same of every character with the
same small letter.
-/

namespace EventRules

/-- Capital letters have small ones 32 places on, and no other character is changed. -/
lemma toNat_toLower (c : Char) :
    c.toLower.toNat = if 65 ≤ c.toNat ∧ c.toNat ≤ 90 then c.toNat + 32 else c.toNat := by
  have hrange : c.val ≥ 'A'.val ∧ c.val ≤ 'Z'.val ↔ 65 ≤ c.toNat ∧ c.toNat ≤ 90 := by
    simp only [ge_iff_le, UInt32.le_iff_toNat_le]
    rfl
  unfold Char.toLower
  split
  case isTrue h =>
    rw [if_pos (hrange.1 h)]
    have hcapital := hrange.1 h
    show (c.val + ('a'.val - 'A'.val)).toNat = c.toNat + 32
    rw [UInt32.toNat_add]
    show (c.toNat + 32) % 2 ^ 32 = c.toNat + 32
    omega
  case isFalse h => rw [if_neg (mt hrange.2 h)]

/-- What is no letter is not changed. -/
lemma toLower_of_not_isAlpha {c : Char} (h : ¬ c.isAlpha) : c.toLower = c := by
  rw [isAlpha_iff_toNat] at h
  rw [← Char.toNat_inj, toNat_toLower, if_neg (by omega)]

/-- A letter stays a letter. -/
lemma isAlpha_toLower {c : Char} (h : c.isAlpha) : c.toLower.isAlpha := by
  rw [isAlpha_iff_toNat] at h ⊢
  rw [toNat_toLower]
  split <;> omega

/-- A test that answers the same for all letters of ASCII is blind to their case. -/
lemma apply_toLower {p : Char → Bool} {b : Bool} (h : ∀ c : Char, c.isAlpha → p c = b) (c : Char) :
    p c.toLower = p c := by
  by_cases hc : c.isAlpha
  · rw [h _ (isAlpha_toLower hc), h c hc]
  · rw [toLower_of_not_isAlpha hc]

/-- To be a certain character that is no letter does not depend on the case. -/
lemma toLower_eq_iff {c d : Char} (hd : ¬ d.isAlpha) : c.toLower = d ↔ c = d := by
  by_cases hc : c.isAlpha
  · refine ⟨fun h => absurd (h ▸ isAlpha_toLower hc) hd, fun h => absurd (h ▸ hc) hd⟩
  · rw [toLower_of_not_isAlpha hc]

/-- What is no letter of ASCII has no other case. -/
lemma eq_of_toLower_eq {c d : Char} (h : d.toLower = c.toLower) (hc : ¬ c.isAlpha) : d = c := by
  rwa [toLower_of_not_isAlpha hc, toLower_eq_iff hc] at h

/-- A letter asked for in both cases. -/
lemma toLower_eq_or_iff {c small capital : Char} (hsmall : 97 ≤ small.toNat ∧ small.toNat ≤ 122)
    (hcapital : capital.toNat + 32 = small.toNat) :
    c.toLower = small ∨ c.toLower = capital ↔ c = small ∨ c = capital := by
  simp only [← Char.toNat_inj, toNat_toLower]
  split <;> omega

/-- To be a digit does not depend on the case. -/
lemma isDigit_toLower (c : Char) : c.toLower.isDigit = c.isDigit := by
  refine apply_toLower (b := false) (fun c hc => ?_) c
  rw [Bool.eq_false_iff, Ne, Char.isDigit_iff_toNat]
  rw [isAlpha_iff_toNat] at hc
  have hlast : '9'.toNat = 57 := rfl
  omega

namespace Text

/-- To be a blank does not depend on the case. -/
lemma isBlank_toLower (c : Char) : isBlank c.toLower = isBlank c :=
  apply_toLower (fun _ hc => isBlank_of_isAlphabetic (isAlphabetic_of_isAlpha hc)) c

/-- To be alphabetic does not depend on the case, since every letter of ASCII is. -/
lemma isAlphabetic_toLower (c : Char) : isAlphabetic c.toLower = isAlphabetic c :=
  apply_toLower (fun _ hc => isAlphabetic_of_isAlpha hc) c

/-- A text in small letters is that of its characters in small letters. -/
lemma toLowerAscii_ofList (cs : List Char) : toLowerAscii (String.ofList cs) = String.ofList (cs.map Char.toLower) := by
  rw [toLowerAscii, String.toList_ofList]

end Text

end EventRules
