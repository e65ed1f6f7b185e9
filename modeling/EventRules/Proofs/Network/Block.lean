import EventRules.Network.Subnet
import EventRules.Proofs.Decimal.Numeral
import EventRules.Proofs.Text.Search
import Mathlib.Algebra.Group.Nat.Defs
import Mathlib.Data.List.TakeWhile

/-!
# Blocks of addresses

The text of a block is an address, or an address and behind a slash how many of its first bits count (`Block`).
Exactly these texts are read as subnets (`ofText?_eq_some_iff`). An address is in the block if it has the same
version and, as a number, the same quotient by the power of two that the other bits make up (`contains_iff`).
-/

namespace EventRules

namespace Network

/-! ## Texts of addresses -/

/-- What stands before the rest of the text has no slash. -/
def Unslashed (cs rest : List Char) : Prop :=
  ∃ taken, cs = taken ++ rest ∧ '/' ∉ taken

namespace Unslashed

variable {cs cs' rest : List Char}

/-- Nothing that is read has no slash in it. -/
lemma refl (cs : List Char) : Unslashed cs cs :=
  ⟨[], rfl, List.not_mem_nil⟩

/-- What is read without a slash in two steps has none in it. -/
lemma trans (h : Unslashed cs cs') (h' : Unslashed cs' rest) : Unslashed cs rest := by
  obtain ⟨taken, rfl, htaken⟩ := h
  obtain ⟨taken', rfl, htaken'⟩ := h'
  exact ⟨taken ++ taken', (List.append_assoc _ _ _).symm, by simp [htaken, htaken']⟩

/-- Characters other than slashes are passed without a slash. -/
lemma dropWhile {p : Char → Bool} (hp : p '/' = false) (cs : List Char) : Unslashed cs (cs.dropWhile p) := by
  refine ⟨cs.takeWhile p, List.takeWhile_append_dropWhile.symm, fun hmem => ?_⟩
  have htrue := List.mem_takeWhile_imp hmem
  rw [hp] at htrue
  cases htrue

end Unslashed

namespace Address

variable {cs rest : List Char}

/-- A mark that is no slash is passed without one. -/
lemma after?_unslashed {c : Char} (hc : c ≠ '/') (h : after? c cs = some rest) : Unslashed cs rest := by
  cases cs with
  | nil => cases h
  | cons d cs =>
    rw [after?] at h
    split at h
    case isTrue heq =>
      cases h
      exact ⟨[d], rfl, by simpa [← heq] using hc.symm⟩
    case isFalse => cases h

/-- An octet has no slash in it. -/
lemma readOctet?_unslashed {b : BitVec 8} (h : readOctet? cs = some (b, rest)) : Unslashed cs rest := by
  unfold readOctet? at h
  dsimp only at h
  split at h
  · cases h
  · cases h
    exact .dropWhile (by decide) cs

/-- An address of four octets has no slash in it. -/
lemma readV4?_unslashed {bits : BitVec 32} (h : readV4? cs = some (bits, rest)) : Unslashed cs rest := by
  simp only [readV4?, Option.bind_eq_bind, Option.bind_eq_some_iff] at h
  obtain ⟨⟨a, cs₁⟩, ha, cs₂, hb, ⟨b, cs₃⟩, hb', cs₄, hc, ⟨c, cs₅⟩, hc', cs₆, hd, ⟨d, cs₇⟩, hd', heq⟩ := h
  cases heq
  have hpoint {ds ds' : List Char} (h : after? '.' ds = some ds') : Unslashed ds ds' :=
    after?_unslashed (by decide) h
  refine (readOctet?_unslashed ha).trans ((hpoint hb).trans ?_)
  refine (readOctet?_unslashed hb').trans ((hpoint hc).trans ?_)
  exact (readOctet?_unslashed hc').trans ((hpoint hd).trans (readOctet?_unslashed hd'))

/-- A group of hexadecimal digits has no slash in it. -/
lemma readGroup?_unslashed {g : BitVec 16} (h : readGroup? cs = some (g, rest)) : Unslashed cs rest := by
  unfold readGroup? at h
  dsimp only at h
  split at h
  · cases h
  · obtain ⟨n, -, heq⟩ := Option.map_eq_some_iff.1 h
    cases heq
    exact .dropWhile (by decide) cs

/-- Groups with their colons have no slash in them. -/
lemma readGroups_unslashed (started : Bool) (room : Nat) (cs : List Char) :
    Unslashed cs (readGroups started room cs).rest := by
  induction room generalizing started cs with
  | zero => exact .refl cs
  | succ room ih =>
    rw [readGroups]
    split
    case h_1 => exact .refl cs
    case h_2 body hbody =>
      have hcolon : Unslashed cs body := by
        split at hbody
        case isTrue => exact after?_unslashed (by decide) hbody
        case isFalse =>
          cases hbody
          exact .refl cs
      split
      case h_1 bits rest hv4 =>
        rw [Option.ite_none_left_eq_some] at hv4
        exact hcolon.trans (readV4?_unslashed hv4.2)
      case h_2 =>
        split
        case h_1 => exact .refl cs
        case h_2 g rest hgroup => exact hcolon.trans ((readGroup?_unslashed hgroup).trans (ih true rest))

/-- An address of eight groups has no slash in it. -/
lemma readV6?_unslashed {bits : BitVec 128} (h : readV6? cs = some (bits, rest)) : Unslashed cs rest := by
  unfold readV6? at h
  dsimp only at h
  split at h
  case isTrue =>
    cases h
    exact readGroups_unslashed false 8 cs
  case isFalse =>
    split at h
    case isTrue => cases h
    case isFalse =>
      simp only [Option.bind_eq_bind, Option.bind_eq_some_iff] at h
      obtain ⟨cs₁, h₁, cs₂, h₂, heq⟩ := h
      cases heq
      refine (readGroups_unslashed false 8 cs).trans ((after?_unslashed (by decide) h₁).trans ?_)
      exact (after?_unslashed (by decide) h₂).trans (readGroups_unslashed false _ cs₂)

/-- What is read as a whole leaves nothing. -/
lemma of_whole? {α : Type} {read : Option (α × List Char)} {a : α} (h : whole? read = some a) :
    read = some (a, []) := by
  unfold whole? at h
  split at h
  · rw [Option.some.inj h]
  · cases h

/-- The text of an address has no slash. -/
lemma not_mem_of_ofText? {s : String} {a : Address} (h : ofText? s = some a) : '/' ∉ s.toList := by
  have hwhole {cs : List Char} (h : Unslashed cs []) : '/' ∉ cs := by
    obtain ⟨taken, rfl, htaken⟩ := h
    rwa [List.append_nil]
  unfold ofText? at h
  split at h
  case h_1 bits hv4 => exact hwhole (readV4?_unslashed (of_whole? hv4))
  case h_2 =>
    obtain ⟨bits, hv6, -⟩ := Option.map_eq_some_iff.1 h
    exact hwhole (readV6?_unslashed (of_whole? hv6))

end Address

/-! ## Texts of blocks -/

/-- The text, without the blanks around it, is the block of the addresses that share `length` bits with `net`: all
bits where it is an address alone. -/
inductive Block (s : String) : (net : Address) → (length : Nat) → Prop
  | single {net : Address} : Address.ofText? (Text.trim s) = some net → Block s net net.width
  | slash {net : Address} {start number : String} {length : Nat} : Text.trim s = start ++ "/" ++ number →
    Address.ofText? start = some net → Decimal.Numeral number.toList length → length ≤ net.width → Block s net length

namespace Subnet

variable {s : String} {net a : Address} {length width : Nat}

/-- A subnet is made of its address and its length just if the length is allowed. -/
lemma of?_eq_some {b : Subnet} : of? net length = some b ↔ b.address = net ∧ b.length = length := by
  obtain ⟨address, own, hle⟩ := b
  unfold of?
  split
  case isTrue => rw [Option.some.injEq, Subnet.mk.injEq, eq_comm, eq_comm (a := length)]
  case isFalse h =>
    refine ⟨nofun, ?_⟩
    rintro ⟨rfl, rfl⟩
    exact absurd hle h

/-- A subnet that is read is written by its text. -/
lemma block_of_ofText? {b : Subnet} (h : ofText? s = some b) : Block s b.address b.length := by
  unfold ofText? at h
  dsimp only at h
  split at h
  case h_1 =>
    obtain ⟨net, hnet, hb⟩ := Option.bind_eq_some_iff.1 h
    obtain ⟨rfl, hlength⟩ := of?_eq_some.1 hb
    rw [hlength]
    exact .single hnet
  case h_2 start number hsplit =>
    obtain ⟨net, hnet, hb⟩ := Option.bind_eq_some_iff.1 h
    obtain ⟨length, hlength, hb⟩ := Option.bind_eq_some_iff.1 hb
    obtain ⟨rfl, rfl⟩ := of?_eq_some.1 hb
    exact .slash (Text.of_splitOnce? hsplit) hnet (Decimal.readNatBelow?_eq_some.1 hlength).1 b.length_le

/-- The width of an address can be written in 32 bits. -/
lemma width_lt (net : Address) : net.width < Nat.pow 2 32 := by
  cases net with
  | v4 => show 32 < 2 ^ 32; decide
  | v6 => show 128 < 2 ^ 32; decide

/-- A block that is written is read as it is. -/
lemma ofText?_of_block (h : Block s net length) : ∃ hle, ofText? s = some ⟨net, length, hle⟩ := by
  unfold ofText?
  dsimp only
  cases h with
  | single hnet =>
    have hwhole : Text.splitOnce? (Text.trim s) "/" = none :=
      Text.splitOnce?_eq_none.2 (mt (List.singleton_infix_iff '/' _).1 (Address.not_mem_of_ofText? hnet))
    rw [hwhole, hnet]
    exact ⟨Nat.le_refl _, of?_eq_some.2 ⟨rfl, rfl⟩⟩
  | slash htext hnet hnumber hle =>
    have hread := Decimal.readNatBelow?_eq_some.2 ⟨hnumber, Nat.lt_of_le_of_lt hle (width_lt net)⟩
    rw [htext, Text.splitOnce?_singleton rfl (Address.not_mem_of_ofText? hnet)]
    dsimp only
    rw [hnet, hread]
    exact ⟨hle, of?_eq_some.2 ⟨rfl, rfl⟩⟩

/-- The texts of blocks are those that are read as subnets. -/
theorem ofText?_eq_some_iff {b : Subnet} : ofText? s = some b ↔ Block s b.address b.length :=
  ⟨block_of_ofText?, fun h => (ofText?_of_block h).2⟩

/-! ## Bits that count -/

/-- The mask of `length` bits is a number: no bit of it is lost, not even where the shift is by the whole width. -/
theorem toNat_mask (width length : Nat) : (mask width length).toNat = 2 ^ width - 2 ^ (width - length) := by
  have hone : 1 ≤ 2 ^ (width - length) := Nat.one_le_two_pow
  have hsmall : 2 ^ (width - length) ≤ 2 ^ width := Nat.pow_le_pow_right (by decide) (Nat.sub_le _ _)
  have hproduct : (2 ^ width - 1) * 2 ^ (width - length) =
      (2 ^ width - 2 ^ (width - length)) + 2 ^ width * (2 ^ (width - length) - 1) := by
    rw [Nat.sub_mul, Nat.mul_sub, Nat.one_mul, Nat.mul_one]
    have hle : 2 ^ width ≤ 2 ^ width * 2 ^ (width - length) := Nat.le_mul_of_pos_right _ hone
    omega
  rw [mask, BitVec.toNat_shiftLeft, BitVec.toNat_allOnes, Nat.shiftLeft_eq, hproduct, Nat.add_mul_mod_self_left]
  exact Nat.mod_eq_of_lt (by omega)

/-- Of a masked word the bits remain that count. -/
lemma getLsbD_and_mask (bits : BitVec width) (i : Nat) :
    (bits &&& mask width length).getLsbD i = (bits.getLsbD i && !decide (i < width - length)) := by
  rw [mask, BitVec.getLsbD_and, BitVec.getLsbD_shiftLeft, BitVec.getLsbD_allOnes]
  by_cases hi : i < width
  · have hshifted : i - (width - length) < width := by omega
    simp [hi, hshifted]
  · simp [BitVec.getLsbD_of_ge bits i (Nat.le_of_not_lt hi)]

/-- Words agree in their first bits if they have the same quotient by the power of two for the others. -/
theorem sameStart_iff (bits bits' : BitVec width) : sameStart length bits bits' = true ↔
    bits.toNat / 2 ^ (width - length) = bits'.toNat / 2 ^ (width - length) := by
  rw [sameStart, beq_iff_eq, ← Nat.shiftRight_eq_div_pow, ← Nat.shiftRight_eq_div_pow,
    ← BitVec.toNat_ushiftRight, ← BitVec.toNat_ushiftRight, BitVec.toNat_inj]
  constructor
  · intro h
    apply BitVec.eq_of_getLsbD_eq
    intro i _
    have hbit := congrArg (·.getLsbD (width - length + i)) h
    have hcounts : ¬width - length + i < width - length := by omega
    rw [getLsbD_and_mask, getLsbD_and_mask] at hbit
    simpa [hcounts] using hbit
  · intro h
    apply BitVec.eq_of_getLsbD_eq
    intro i _
    rw [getLsbD_and_mask, getLsbD_and_mask]
    by_cases hi : i < width - length
    · simp [hi]
    · have hbit := congrArg (·.getLsbD (i - (width - length))) h
      rw [BitVec.getLsbD_ushiftRight, BitVec.getLsbD_ushiftRight] at hbit
      rw [Nat.add_sub_of_le (Nat.le_of_not_lt hi)] at hbit
      rw [hbit]

end Subnet

namespace Address

variable {net a : Address} {length shorter : Nat}

/-- The addresses have the same version and the same first `length` bits: the same quotient by the power of two for
the other bits. -/
def Shares (net : Address) (length : Nat) (a : Address) : Prop :=
  net.width = a.width ∧ net.toNat / 2 ^ (net.width - length) = a.toNat / 2 ^ (net.width - length)

/-- An address as a number has no more bits than the address. -/
lemma toNat_lt (a : Address) : a.toNat < 2 ^ a.width := by
  cases a with
  | v4 bits => exact bits.isLt
  | v6 bits => exact bits.isLt

/-- An address is told by its width and its number. -/
lemma ext_toNat (hwidth : net.width = a.width) (htoNat : net.toNat = a.toNat) : net = a := by
  cases net with
  | v4 bits =>
    cases a with
    | v4 bits' => exact congrArg v4 (BitVec.eq_of_toNat_eq htoNat)
    | v6 bits' => cases hwidth
  | v6 bits =>
    cases a with
    | v4 bits' => cases hwidth
    | v6 bits' => exact congrArg v6 (BitVec.eq_of_toNat_eq htoNat)

/-- Addresses of one version differ in no bit of the first none. -/
lemma shares_zero : net.Shares 0 a ↔ net.width = a.width := by
  refine ⟨And.left, fun hwidth => ⟨hwidth, ?_⟩⟩
  rw [Nat.sub_zero, Nat.div_eq_of_lt net.toNat_lt, hwidth, Nat.div_eq_of_lt a.toNat_lt]

/-- Only the address itself shares all bits. -/
lemma shares_width : net.Shares net.width a ↔ net = a := by
  constructor
  · rintro ⟨hwidth, hquotient⟩
    rw [Nat.sub_self, Nat.pow_zero, Nat.div_one, Nat.div_one] at hquotient
    exact ext_toNat hwidth hquotient
  · rintro rfl
    exact ⟨rfl, rfl⟩

/-- What shares some bits shares fewer. -/
lemma Shares.mono (h : net.Shares length a) (hle : shorter ≤ length) : net.Shares shorter a := by
  have hother : net.width - shorter = net.width - length + (net.width - shorter - (net.width - length)) := by omega
  refine ⟨h.1, ?_⟩
  rw [hother, Nat.pow_add, ← Nat.div_div_eq_div_mul, ← Nat.div_div_eq_div_mul, h.2]

end Address

/-- An address belongs to the subnet if it shares the bits that count. -/
theorem Subnet.contains_iff {b : Subnet} {a : Address} : b.contains a = true ↔ b.address.Shares b.length a := by
  obtain ⟨net, length, hle⟩ := b
  cases net with
  | v4 bits =>
    cases a with
    | v4 bits' => exact (sameStart_iff bits bits').trans (and_iff_right rfl).symm
    | v6 bits' => exact iff_of_false Bool.false_ne_true fun h => absurd h.1 (show 32 ≠ 128 by decide)
  | v6 bits =>
    cases a with
    | v4 bits' => exact iff_of_false Bool.false_ne_true fun h => absurd h.1 (show 128 ≠ 32 by decide)
    | v6 bits' => exact (sameStart_iff bits bits').trans (and_iff_right rfl).symm

end Network

end EventRules
