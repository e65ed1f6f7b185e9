import EventRules.Decimal.Layout
import EventRules.Decimal.Reader
import Mathlib

/-!
# The sign of a float

A float that was read from a text with a minus sign is written with one, zero included
(`floatText_minus`).
-/

namespace EventRules

namespace FloatParts

/-- The bits of an infinity or of a smaller number with a minus sign come back from the float. -/
lemma toBits_signed {bits : Nat} (h : bits ≤ infiniteBits) : (signed true bits).toBits.toNat = 2 ^ 63 + bits := by
  have hbits : bits ≤ 2047 * 2 ^ 52 := h
  have hnat : (UInt64.ofNat (2 ^ 63 + bits)).toBitVec.toNat = 2 ^ 63 + bits :=
    Nat.mod_eq_of_lt (by omega)
  have hvalid : Float.Model.Format.binary64.Valid (UInt64.ofNat (2 ^ 63 + bits)).toBitVec := by
    -- only an infinity has an exponent of ones here, and it has no mantissa
    refine ⟨fun hexponent hmantissa => (hmantissa ?_).elim⟩
    have hexponent := congrArg BitVec.toNat hexponent
    apply BitVec.eq_of_toNat_eq
    simp only [Float.Model.UnpackedFloat.unpackExponent, Float.Model.UnpackedFloat.unpackMantissa,
      BitVec.toNat_cast, BitVec.extractLsb_toNat, Nat.shiftRight_eq_div_pow] at hexponent ⊢
    rw [hnat] at hexponent ⊢
    have hones : (-1#11).toNat = 2047 := rfl
    rw [hones] at hexponent
    change (2 ^ 63 + bits) / 2 ^ 0 % 2 ^ 52 = 0
    omega
  have hround := congrArg Float.toBits (Float.ofBits_toBits ⟨⟨UInt64.ofNat (2 ^ 63 + bits), hvalid⟩⟩)
  exact (congrArg UInt64.toNat hround).trans hnat

/-- The sign of a float is its highest bit. -/
lemma ofFloat_negative {x : Float} {negative : Bool} {mantissa : Nat} {exponent : Int}
    (h : ofFloat x = .finite negative mantissa exponent) : negative = x.toBits.toNat.testBit 63 := by
  simp only [ofFloat] at h
  split at h
  · split at h <;> cases h
  · split at h <;> cases h <;> rfl

/-- A float with the bit for its sign set is negative. -/
lemma ofFloat_signed {bits : Nat} (h : bits ≤ infiniteBits) (hfinite : (ofFloat (signed true bits)).isFinite) :
    ∃ mantissa exponent, ofFloat (signed true bits) = .finite true mantissa exponent := by
  have hbits : bits ≤ 2047 * 2 ^ 52 := h
  have hsign : (signed true bits).toBits.toNat.testBit 63 = true := by
    rw [toBits_signed h, Nat.testBit_two_pow_add_eq, Nat.testBit_lt_two_pow (by omega)]
    rfl
  cases hparts : ofFloat (signed true bits) with
  | nan | infinite => rw [hparts] at hfinite; cases hfinite
  | finite negative mantissa exponent =>
    obtain rfl := (ofFloat_negative hparts).trans hsign
    exact ⟨mantissa, exponent, rfl⟩

/-- What is nearest to a negative number has the bit for its sign set. -/
lemma nearest_signed (num den : Nat) : ∃ bits ≤ infiniteBits, nearest true num den = signed true bits := by
  fun_cases nearest true num den with
  | case1 => exact ⟨0, Nat.zero_le _, rfl⟩
  | case2 => exact ⟨_, Nat.min_le_right _ _, rfl⟩

/-- The float nearest to a number with a minus sign has that sign. -/
lemma ofDecimal_signed (digits : Nat) (power : Int) :
    ∃ bits ≤ infiniteBits, ofDecimal true digits power = signed true bits := by
  simp only [ofDecimal]
  split
  · exact ⟨0, Nat.zero_le _, rfl⟩
  split
  · exact ⟨infiniteBits, Nat.le_refl _, rfl⟩
  split
  · exact ⟨0, Nat.zero_le _, rfl⟩
  split
  · exact nearest_signed _ _
  · exact nearest_signed _ _

end FloatParts

namespace Decimal

/-- A magnitude behind a minus sign is read as a float with the bit for its sign set. -/
lemma readMagnitude?_signed {cs : List Char} {x : Float} (h : readMagnitude? true cs = some x) :
    ∃ bits ≤ FloatParts.infiniteBits, x = FloatParts.signed true bits := by
  simp only [readMagnitude?] at h
  split at h
  · split at h
    · cases h
    · obtain ⟨exponent, -, rfl⟩ := Option.map_eq_some_iff.1 h
      exact FloatParts.ofDecimal_signed _ _
  · split at h
    · cases h
    · obtain ⟨exponent, -, rfl⟩ := Option.map_eq_some_iff.1 h
      exact FloatParts.ofDecimal_signed _ _

/-- A digit has no other case. -/
lemma toLower_digit {d : Char} (hd : d.isDigit) : d.toLower = d := by
  refine Char.toLower_eq_of_not_isUpper fun hupper => ?_
  simp only [Char.isDigit, Char.isUpper, Bool.and_eq_true, decide_eq_true_eq] at hd hupper
  exact absurd (UInt32.le_trans hupper.1 hd.2) (by decide)

/-- Behind a minus sign the magnitude is read as that of a negative number. -/
lemma readFloat?_minus {d : Char} {cs : List Char} (hd : d.isDigit) :
    readFloat? ('-' :: d :: cs) = readMagnitude? true (d :: cs) := by
  have hletter (c : Char) (word : List Char) (hc : c.isDigit = false) :
      String.ofList ((d :: cs).map Char.toLower) ≠ String.ofList (c :: word) := by
    intro h
    have hhead : d.toLower = c := (List.cons.inj (String.ofList_injective h)).1
    rw [toLower_digit hd] at hhead
    rw [← hhead, hd] at hc
    cases hc
  simp only [readFloat?, splitSign]
  rw [if_neg, if_neg]
  · exact hletter 'n' ['a', 'n'] rfl
  · exact not_or.2 ⟨hletter 'i' _ rfl, hletter 'i' _ rfl⟩

/-- A number with a minus sign and a digit after it is written with a minus sign. -/
lemma floatText_minus {d : Char} {cs : List Char} {x : Float} (hd : d.isDigit)
    (h : readFloat? ('-' :: d :: cs) = some x) (hfinite : (FloatParts.ofFloat x).isFinite) :
    (floatText x).toList.head? = some '-' := by
  rw [readFloat?_minus hd] at h
  obtain ⟨bits, hbits, rfl⟩ := readMagnitude?_signed h
  obtain ⟨mantissa, exponent, hparts⟩ := FloatParts.ofFloat_signed hbits hfinite
  rw [floatText, Layout.finite?, hparts]
  simp

end Decimal

end EventRules
