import EventRules.Function.Network
import EventRules.Proofs.Network.Block

/-!
# Membership in subnets

An address is in one of some subnets if it shares the bits that count with one of the blocks that the arguments write
(`inSubnet_decides`). Texts that write no block, null, and blocks of the other version make no difference.
-/

namespace EventRules.NetworkFunctions

open Network

variable {s t : String} {a net : Address} {blocks : List Value} {length : Nat}

/-- The value writes a subnet that the address belongs to. -/
def holds (a : Address) : Value → Bool
  | .string t => (Subnet.ofText? t).any (·.contains a)
  | _ => false

/-- The text of a block holds the addresses that share its bits. -/
lemma holds_block (h : Block t net length) : holds a (.string t) = true ↔ net.Shares length a := by
  obtain ⟨hle, hb⟩ := Subnet.ofText?_of_block h
  rw [holds, hb, Option.any_some]
  exact Subnet.contains_iff

/-- A text holds an address if it writes a block that shares its bits. -/
lemma holds_iff : holds a (.string t) = true ↔ ∃ net length, Block t net length ∧ net.Shares length a := by
  rw [holds, Option.any_eq_true]
  constructor
  · rintro ⟨b, hb, hcontains⟩
    exact ⟨b.address, b.length, Subnet.ofText?_eq_some_iff.1 hb, Subnet.contains_iff.1 hcontains⟩
  · rintro ⟨net, length, hblock, hshares⟩
    obtain ⟨hle, hb⟩ := Subnet.ofText?_of_block hblock
    exact ⟨_, hb, Subnet.contains_iff.2 hshares⟩

/-- The value is null or a text. -/
def IsBlockArgument (v : Value) : Prop :=
  v = .null ∨ ∃ t, v = .string t

/-- Arguments that are texts or null are looked at one after the other, with no error. -/
lemma inSomeSubnet_eq (a : Address) (index : Nat) (h : ∀ v ∈ blocks, IsBlockArgument v) :
    inSomeSubnet a index blocks = .ok (blocks.any (holds a)) := by
  induction blocks generalizing index with
  | nil => rfl
  | cons v rest ih =>
    obtain ⟨hv, hrest⟩ := List.forall_mem_cons.1 h
    rcases hv with rfl | ⟨t, rfl⟩
    · rw [inSomeSubnet, ih (index + 1) hrest]
      rfl
    · rw [inSomeSubnet, ih (index + 1) hrest, List.any_cons, holds]
      split <;> simp_all

/-- An address is in some subnets just if one of them holds it. -/
lemma inSubnet_eq (hne : blocks ≠ []) (h : ∀ v ∈ blocks, IsBlockArgument v) :
    inSubnet (.string s :: blocks) =
      .ok (.bool ((Address.ofText? (Text.trim s)).any fun a => blocks.any (holds a))) := by
  have harity : Arguments.checkArity "IN_SUBNET" (.string s :: blocks) 2 none = .ok () :=
    if_pos ⟨Nat.succ_le_succ (List.length_pos_iff.2 hne), rfl⟩
  have htext : Arguments.text? (Arguments.get (.string s :: blocks) 0) = some s := rfl
  rw [inSubnet, harity, htext, Option.bind_some, List.drop_one, List.tail_cons]
  cases Address.ofText? (Text.trim s) with
  | none => rfl
  | some a =>
    dsimp only
    rw [inSomeSubnet_eq a 1 h]
    rfl

/-- What the function says about a text of an address and some blocks. -/
structure Decides (s : String) (blocks : List Value) : Prop where
  /-- The address shares the bits that count with the address of a block. -/
  member : ∃ found, inSubnet (.string s :: blocks) = .ok (.bool found) ∧
    (found = true ↔ ∃ a t net length, Address.ofText? (Text.trim s) = some a ∧ .string t ∈ blocks ∧
      Block t net length ∧ net.Shares length a)
  /-- The order of the blocks does not matter. -/
  order : ∀ blocks', blocks.Perm blocks' → inSubnet (.string s :: blocks') = inSubnet (.string s :: blocks)
  /-- A text that is no block, or a block of the other version, is passed over. -/
  skipped : ∀ front t back, blocks = front ++ .string t :: back → front ++ back ≠ [] →
    (∀ a net length, Address.ofText? (Text.trim s) = some a → Block t net length → net.width ≠ a.width) →
    inSubnet (.string s :: blocks) = inSubnet (.string s :: (front ++ back))

/-- How the answer about a text of an address depends on how many bits of a block count. -/
structure Narrows (s : String) : Prop where
  /-- Where no bit counts, the block has every address of the version. -/
  noBits : ∀ a t net, Address.ofText? (Text.trim s) = some a → Block t net 0 →
    (inSubnet [.string s, .string t] = .ok (.bool true) ↔ net.width = a.width)
  /-- Where all bits count, the block has the address itself. -/
  allBits : ∀ a t net, Address.ofText? (Text.trim s) = some a → Block t net net.width →
    (inSubnet [.string s, .string t] = .ok (.bool true) ↔ net = a)
  fewerBits : ∀ t t' net length shorter, Block t net length → Block t' net shorter → shorter ≤ length →
    inSubnet [.string s, .string t] = .ok (.bool true) → inSubnet [.string s, .string t'] = .ok (.bool true)
  /-- The mask is shifted by a number of bits that the address has, and has the value that this shift should give. -/
  mask : ∀ t b, Subnet.ofText? t = some b → b.length ≤ b.address.width ∧
    (Subnet.mask b.address.width b.length).toNat = 2 ^ b.address.width - 2 ^ (b.address.width - b.length)

/-- Membership is decided by the blocks that the arguments write, in whatever order they come. -/
lemma decides (hne : blocks ≠ []) (h : ∀ v ∈ blocks, IsBlockArgument v) : Decides s blocks where
  member := by
    refine ⟨_, inSubnet_eq hne h, ?_⟩
    simp only [Option.any_eq_true, List.any_eq_true]
    constructor
    · rintro ⟨a, ha, v, hv, hholds⟩
      rcases h v hv with rfl | ⟨t, rfl⟩
      · cases hholds
      · obtain ⟨net, length, hblock, hshares⟩ := holds_iff.1 hholds
        exact ⟨a, t, net, length, ha, hv, hblock, hshares⟩
    · rintro ⟨a, t, net, length, ha, hv, hblock, hshares⟩
      exact ⟨a, ha, .string t, hv, (holds_block hblock).2 hshares⟩
  order blocks' hperm := by
    have hne' : blocks' ≠ [] := fun hnil => hne (hnil ▸ hperm).eq_nil
    have h' : ∀ v ∈ blocks', IsBlockArgument v := fun v hv => h v (hperm.mem_iff.2 hv)
    rw [inSubnet_eq hne h, inSubnet_eq hne' h']
    simp only [hperm.any_eq]
  skipped front t back hsplit hrest hother := by
    have harguments : ∀ v ∈ front ++ back, IsBlockArgument v := by
      intro v hv
      apply h v
      rw [hsplit]
      exact ((List.sublist_cons_self _ _).append_left front).mem hv
    rw [inSubnet_eq hne h, inSubnet_eq hrest harguments, hsplit]
    cases ha : Address.ofText? (Text.trim s) with
    | none => rfl
    | some a =>
      -- A block of the other version shares no bits with the address, so it may be left out.
      have hnot : holds a (.string t) = false := by
        rw [Bool.eq_false_iff]
        intro hholds
        obtain ⟨net, length, hblock, hshares⟩ := holds_iff.1 hholds
        exact hother a net length ha hblock hshares.1
      simp only [Option.any_some, List.any_append, List.any_cons, hnot, Bool.false_or]

/-- One subnet holds what it holds. -/
lemma inSubnet_single (s t : String) : inSubnet [.string s, .string t] = .ok (.bool true) ↔
    ∃ a, Address.ofText? (Text.trim s) = some a ∧ holds a (.string t) = true := by
  have hargument : ∀ v ∈ [Value.string t], IsBlockArgument v := List.forall_mem_singleton.2 (.inr ⟨t, rfl⟩)
  rw [inSubnet_eq (List.cons_ne_nil _ _) hargument, Except.ok.injEq, Value.bool.injEq, Option.any_eq_true]
  simp only [List.any_cons, List.any_nil, Bool.or_false]

/-- An address that a text writes is in a block if it shares the bits that count. -/
lemma inSubnet_block (ha : Address.ofText? (Text.trim s) = some a) (h : Block t net length) :
    inSubnet [.string s, .string t] = .ok (.bool true) ↔ net.Shares length a := by
  rw [inSubnet_single, ha]
  simp only [Option.some.injEq, exists_eq_left', holds_block h]

/-- A longer prefix holds fewer addresses. -/
lemma narrows (s : String) : Narrows s where
  noBits a t net ha hblock := (inSubnet_block ha hblock).trans Address.shares_zero
  allBits a t net ha hblock := (inSubnet_block ha hblock).trans Address.shares_width
  fewerBits t t' net length shorter hblock hblock' hle h := by
    obtain ⟨a, ha, hholds⟩ := (inSubnet_single s t).1 h
    exact (inSubnet_block ha hblock').2 (((holds_block hblock).1 hholds).mono hle)
  mask t b _ := ⟨b.length_le, Subnet.toNat_mask _ _⟩

/-- An address is in one of some blocks if it shares the bits that count with one of them. -/
theorem inSubnet_decides (hne : blocks ≠ []) (h : ∀ v ∈ blocks, IsBlockArgument v) : Decides s blocks ∧ Narrows s :=
  ⟨decides hne h, narrows s⟩

/-- Beside a block of the other version and a null an address is found in a block, in any order, and it is in the block
of fewer bits too. -/
theorem inSubnet_decides_eight :
    (([.string "::/0", .null, .string "10.9.9.9/8"] : List Value) ≠ [] ∧
      (∀ v ∈ ([.string "::/0", .null, .string "10.9.9.9/8"] : List Value), IsBlockArgument v)) ∧
    (Block "10.9.9.9/8" (.v4 0x0A090909) 8 ∧ Block "10.9.9.9/+7" (.v4 0x0A090909) 7) ∧
    inSubnet [.string " 10.1.2.3", .string "::/0", .null, .string "10.9.9.9/8"] = .ok (.bool true) ∧
    inSubnet [.string " 10.1.2.3", .string "10.9.9.9/8", .null, .string "::/0"] = .ok (.bool true) ∧
    inSubnet [.string " 10.1.2.3", .string "10.9.9.9/+7"] = .ok (.bool true) := by
  have hne : ([.string "::/0", .null, .string "10.9.9.9/8"] : List Value) ≠ [] := List.cons_ne_nil _ _
  have hblocks : ∀ v ∈ ([.string "::/0", .null, .string "10.9.9.9/8"] : List Value), IsBlockArgument v :=
    List.forall_mem_cons.2 ⟨.inr ⟨_, rfl⟩,
      List.forall_mem_cons.2 ⟨.inl rfl, List.forall_mem_singleton.2 (.inr ⟨_, rfl⟩)⟩⟩
  have haddress : Address.ofText? (Text.trim " 10.1.2.3") = some (.v4 0x0A010203) := by decide +kernel
  have hnet : Address.ofText? "10.9.9.9" = some (.v4 0x0A090909) := by decide +kernel
  have hbyte : Block "10.9.9.9/8" (.v4 0x0A090909) 8 := by
    have htext : Text.trim "10.9.9.9/8" = "10.9.9.9" ++ "/" ++ "8" := by decide +kernel
    have hnumber : Decimal.Numeral ['8'] 8 := .plain (List.cons_ne_nil _ _) (List.forall_mem_singleton.2 rfl)
    exact .slash htext hnet hnumber (by decide)
  have hfewer : Block "10.9.9.9/+7" (.v4 0x0A090909) 7 := by
    have htext : Text.trim "10.9.9.9/+7" = "10.9.9.9" ++ "/" ++ "+7" := by decide +kernel
    have hnumber : Decimal.Numeral ['+', '7'] 7 := .plus (List.cons_ne_nil _ _) (List.forall_mem_singleton.2 rfl)
    exact .slash htext hnet hnumber (by decide)
  obtain ⟨⟨⟨found, hfound, hmember⟩, horder, -⟩, hnarrows⟩ := inSubnet_decides (s := " 10.1.2.3") hne hblocks
  have hin : inSubnet [.string " 10.1.2.3", .string "::/0", .null, .string "10.9.9.9/8"] = .ok (.bool true) := by
    have hlast : Value.string "10.9.9.9/8" ∈ [.string "::/0", .null, .string "10.9.9.9/8"] :=
      List.mem_cons_of_mem _ (List.mem_cons_of_mem _ List.mem_cons_self)
    rw [hfound, hmember.2 ⟨_, _, _, _, haddress, hlast, hbyte, rfl, rfl⟩]
  have hone : inSubnet [.string " 10.1.2.3", .string "10.9.9.9/8"] = .ok (.bool true) :=
    (inSubnet_block haddress hbyte).2 ⟨rfl, rfl⟩
  have hreversed := horder [.string "10.9.9.9/8", .null, .string "::/0"] (List.reverse_perm _).symm
  exact ⟨⟨hne, hblocks⟩, ⟨hbyte, hfewer⟩, hin, hreversed.trans hin,
    hnarrows.fewerBits _ _ _ _ _ hbyte hfewer (by decide) hone⟩

end EventRules.NetworkFunctions
