import EventRules.Function.Registry
import EventRules.Proofs.Text.CharClass
import Mathlib.Data.List.DropRight

/-!
# Canonical names

A canonical name has no blanks at its ends and no small letters of ASCII. To put the letters in capitals
makes no blank and removes none, so it does not matter that blanks are taken off first.
-/

namespace EventRules

/-- Small letters have capital ones 32 places before, and no other character is changed. -/
lemma toNat_toUpper (c : Char) :
    c.toUpper.toNat = if 97 ≤ c.toNat ∧ c.toNat ≤ 122 then c.toNat - 32 else c.toNat := by
  have hrange : 'a'.val ≤ c.val ∧ c.val ≤ 'z'.val ↔ 97 ≤ c.toNat ∧ c.toNat ≤ 122 := by
    simp only [UInt32.le_iff_toNat_le]
    rfl
  unfold Char.toUpper
  split
  case isTrue h =>
    rw [if_pos (hrange.1 h)]
    have hsmall := hrange.1 h
    -- The difference of the two cases is subtracted modulo 2^32.
    show (c.val + ('A'.val - 'a'.val)).toNat = c.toNat - 32
    rw [UInt32.toNat_add]
    show (c.toNat + 4294967264) % 2 ^ 32 = c.toNat - 32
    omega
  case isFalse h => rw [if_neg (mt hrange.2 h)]

/-- A capital letter is its own capital. -/
lemma toUpper_toUpper (c : Char) : c.toUpper.toUpper = c.toUpper := by
  rw [← Char.toNat_inj, toNat_toUpper, toNat_toUpper]
  grind

namespace Text

/-- To be a blank does not depend on the case. -/
lemma isBlank_toUpper (c : Char) : isBlank c.toUpper = isBlank c := by
  have hcode := toNat_toUpper c
  split at hcode
  case isTrue hsmall =>
    have hletter {c : Char} (h : 65 ≤ c.toNat ∧ c.toNat ≤ 90 ∨ 97 ≤ c.toNat ∧ c.toNat ≤ 122) : isBlank c = false :=
      isBlank_of_isAlphabetic (isAlphabetic_of_isAlpha (isAlpha_iff_toNat.2 h))
    rw [hletter, hletter] <;> omega
  case isFalse => rw [isBlank, isBlank, hcode]

/-- Blanks are taken off the front and off the end. -/
lemma trimChars_eq (cs : List Char) : trimChars cs = (cs.dropWhile isBlank).rdropWhile isBlank := rfl

/-- There is nothing to take off a second time. -/
lemma trimChars_trimChars (cs : List Char) : trimChars (trimChars cs) = trimChars cs := by
  have hfront : (trimChars cs).dropWhile isBlank = trimChars cs := by
    rw [List.dropWhile_eq_self_iff]
    intro hlength
    -- What is left begins as it did before the end was taken off.
    have hbegins : trimChars cs <+: cs.dropWhile isBlank := List.rdropWhile_prefix isBlank _
    have hlength' : 0 < (cs.dropWhile isBlank).length := Nat.lt_of_lt_of_le hlength hbegins.length_le
    rw [hbegins.getElem hlength]
    exact List.dropWhile_eq_self_iff.1 (List.dropWhile_idempotent isBlank cs) hlength'
  rw [trimChars_eq, hfront, trimChars_eq, List.rdropWhile_idempotent]

/-- It does not matter whether blanks are taken off before or after the letters are put in capitals. -/
lemma trimChars_map_toUpper (cs : List Char) : trimChars (cs.map Char.toUpper) = (trimChars cs).map Char.toUpper := by
  have hblank : isBlank ∘ Char.toUpper = isBlank := funext isBlank_toUpper
  rw [trimChars, trimChars, List.dropWhile_map, hblank, ← List.map_reverse, List.dropWhile_map, hblank, List.map_reverse]

end Text

namespace Registry

/-- The text is not empty, has no blanks at its ends and no small letters of ASCII. -/
structure Canonical (name : String) : Prop where
  nonempty : name ≠ ""
  trimmed : Text.trim name = name
  capitals : Text.toUpperAscii name = name

/-- The canonical name of anything is canonical, unless it is empty. -/
lemma canonical_canonicalName {name : String} (h : canonicalName name ≠ "") : Canonical (canonicalName name) where
  nonempty := h
  trimmed := by
    simp only [canonicalName, Text.toUpperAscii, Text.trim, String.toList_ofList]
    rw [Text.trimChars_map_toUpper, Text.trimChars_trimChars]
  capitals := by
    have hidempotent : Char.toUpper ∘ Char.toUpper = Char.toUpper := funext toUpper_toUpper
    simp only [canonicalName, Text.toUpperAscii, String.toList_ofList, List.map_map, hidempotent]

end Registry

end EventRules
