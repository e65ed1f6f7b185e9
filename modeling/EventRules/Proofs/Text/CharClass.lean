import EventRules.Text.CharClass
import Mathlib.Tactic.Lemma

/-!
# Letters, digits and blanks

The letters and digits of ASCII are letters and numbers, and no letter is a blank. Below U+0080 the tests
of the classes tell; above it the blanks are a few runs of code points, and none of them meets a range in
the table of letters.
-/

namespace EventRules

/-- The letters of ASCII are two runs of codes. -/
lemma isAlpha_iff_toNat {c : Char} :
    c.isAlpha ↔ 65 ≤ c.toNat ∧ c.toNat ≤ 90 ∨ 97 ≤ c.toNat ∧ c.toNat ≤ 122 := by
  have hcases : c.isAlpha = (decide (c.val ≥ 'A'.val ∧ c.val ≤ 'Z'.val) ||
      decide (c.val ≥ 'a'.val) && decide (c.val ≤ 'z'.val)) := rfl
  simp [hcases, UInt32.le_iff_toNat_le]

/-- A letter of ASCII is alphabetic. -/
lemma isAlphabetic_of_isAlpha {c : Char} (h : c.isAlpha) : Text.isAlphabetic c := by
  have hascii : c.toNat < 128 := by
    rw [isAlpha_iff_toNat] at h
    omega
  rwa [Text.isAlphabetic, if_pos hascii]

/-- A digit of ASCII is numeric. -/
lemma isNumeric_of_isDigit {c : Char} (h : c.isDigit) : Text.isNumeric c := by
  have hascii : c.toNat < 128 := by
    have hlast : c.toNat ≤ 57 := (Char.isDigit_iff_toNat.1 h).2
    omega
  rwa [Text.isNumeric, if_pos hascii]

namespace Text

/-- A character that the search finds lies in one of the ranges. -/
lemma CharSet.mem_range_of_search {ranges : Array (Nat × Nat)} {n fuel lo hi : Nat}
    (h : search ranges n fuel lo hi = true) : ∃ r ∈ ranges.toList, r.1 ≤ n ∧ n ≤ r.2 := by
  fun_induction search ranges n fuel lo hi with
  | case1 | case2 | case6 => cases h
  | case3 fuel lo hi hlt mid first last hget hbelow ih => exact ih h
  | case4 fuel lo hi hlt mid first last hget hbelow habove ih => exact ih h
  | case5 fuel lo hi hlt mid first last hget hbelow habove =>
    exact ⟨(first, last), Array.mem_toList_iff.2 (Array.mem_of_getElem? hget), Nat.not_lt.1 hbelow,
      Nat.not_lt.1 habove⟩

/-- The blanks above U+0080, as runs of code points. -/
def blankRanges : List (Nat × Nat) :=
  [(0x85, 0x85), (0xA0, 0xA0), (0x1680, 0x1680), (0x2000, 0x200A), (0x2028, 0x2029), (0x202F, 0x202F),
    (0x205F, 0x205F), (0x3000, 0x3000)]

/-- A blank outside of ASCII is in one of the listed ranges. -/
lemma mem_blankRanges {c : Char} (h : isBlank c) (hhigh : 128 ≤ c.toNat) :
    ∃ r ∈ blankRanges, r.1 ≤ c.toNat ∧ c.toNat ≤ r.2 := by
  simp only [isBlank, if_neg (Nat.not_lt.2 hhigh), Bool.or_eq_true, Bool.and_eq_true, beq_iff_eq,
    decide_eq_true_eq] at h
  simp only [blankRanges, List.mem_cons, List.not_mem_nil, or_false, exists_eq_or_imp, exists_eq_left]
  omega

/-- No range of letters meets a run of blanks. -/
lemma alphabeticTable_apart :
    alphabeticTable.ranges.toList.all fun r => blankRanges.all fun b => r.2 < b.1 || b.2 < r.1 := by
  rw [alphabeticTable, property?, binaryProperties, List.find?_cons_of_neg (by simp),
    List.find?_cons_of_neg (by simp), List.find?_cons_of_neg (by simp), List.find?_cons_of_pos (by simp),
    Option.map_some, Option.getD_some, CharSet.ofPacked, unpackRanges, unpack]
  -- The text of the table becomes a list of characters, on which unpacking can be evaluated.
  simp only [String.toList_append]
  repeat rw [String.toList_ofList]
  decide +kernel

/-- No letter is a blank. -/
theorem isBlank_of_isAlphabetic {c : Char} (h : isAlphabetic c) : isBlank c = false := by
  rw [Bool.eq_false_iff]
  intro hblank
  by_cases hhigh : 128 ≤ c.toNat
  · rw [isAlphabetic, if_neg (Nat.not_lt.2 hhigh)] at h
    obtain ⟨r, hr, hfirst, hlast⟩ := CharSet.mem_range_of_search h
    obtain ⟨b, hb, hfirst', hlast'⟩ := mem_blankRanges hblank hhigh
    have hapart := List.all_eq_true.1 (List.all_eq_true.1 alphabeticTable_apart r hr) b hb
    simp only [Bool.or_eq_true, decide_eq_true_eq] at hapart
    omega
  · have hlow : c.toNat < 128 := Nat.not_le.1 hhigh
    rw [isAlphabetic, if_pos hlow, isAlpha_iff_toNat] at h
    simp only [isBlank, if_pos hlow, Bool.or_eq_true, Bool.and_eq_true, beq_iff_eq, decide_eq_true_eq] at hblank
    omega

end Text

end EventRules
