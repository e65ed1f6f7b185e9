import EventRules.Decimal.Reader
import EventRules.Text.Hex

/-!
# Addresses

Addresses of the Internet protocol, versions 4 and 6, with the texts that write them. An address is the bits that
travel on the wire, so two texts of one address give equal values.
-/

namespace EventRules.Network

/-- An address of version 4 or 6. -/
inductive Address
  | v4 (bits : BitVec 32)
  | v6 (bits : BitVec 128)
  deriving DecidableEq, Repr

namespace Address

/-- How many bits the addresses of this version have. -/
def width : Address → Nat
  | v4 _ => 32
  | v6 _ => 128

/-- The bits as a number. -/
def toNat : Address → Nat
  | v4 bits => bits.toNat
  | v6 bits => bits.toNat

/-- The address of four octets. -/
def ofOctets (a b c d : BitVec 8) : BitVec 32 :=
  a ++ b ++ c ++ d

/-- The address of groups of 16 bits, most significant first. -/
def ofGroups (groups : List (BitVec 16)) : BitVec 128 :=
  groups.foldl (fun bits g => bits <<< 16 ||| g.setWidth 128) 0

/-- The four octets of an address of version 4. -/
def octets (bits : BitVec 32) : List (BitVec 8) :=
  [3, 2, 1, 0].map fun i => bits.extractLsb' (8 * i) 8

/-- The eight groups of an address of version 6. -/
def groups (bits : BitVec 128) : List (BitVec 16) :=
  [7, 6, 5, 4, 3, 2, 1, 0].map fun i => bits.extractLsb' (16 * i) 16

/-! ## Reading -/

/-- What follows the character `c` at the start. -/
def after? (c : Char) : List Char → Option (List Char)
  | d :: rest => if c = d then some rest else none
  | [] => none

/-- Reads a decimal number below 256: up to three digits, without leading zeros. -/
def readOctet? (cs : List Char) : Option (BitVec 8 × List Char) :=
  let digits := cs.takeWhile Char.isDigit
  let n := Decimal.digitsValue digits
  if digits.isEmpty || 3 < digits.length || 255 < n || (digits.head? == some '0' && 1 < digits.length) then none
  else some (BitVec.ofNat 8 n, cs.dropWhile Char.isDigit)

/-- Reads four octets with points between. -/
def readV4? (cs : List Char) : Option (BitVec 32 × List Char) := do
  let (a, cs) ← readOctet? cs
  let (b, cs) ← readOctet? (← after? '.' cs)
  let (c, cs) ← readOctet? (← after? '.' cs)
  let (d, cs) ← readOctet? (← after? '.' cs)
  return (ofOctets a b c d, cs)

/-- Reads a group of one to four hexadecimal digits. -/
def readGroup? (cs : List Char) : Option (BitVec 16 × List Char) :=
  let digits := cs.takeWhile Text.isHexDigit
  if digits.isEmpty || 4 < digits.length then none
  else (Text.hexValue? digits).map fun n => (BitVec.ofNat 16 n, cs.dropWhile Text.isHexDigit)

/-- Groups read from a text, whether the last two came from an address of version 4, and what follows. -/
structure Groups where
  list : List (BitVec 16)
  mixed : Bool
  rest : List Char

/-- Reads as many groups as there are, up to `room`, with colons between; `started` says that a group came before.
Where two groups have room, an address of version 4 may stand for them and ends the groups. -/
def readGroups (started : Bool) : (room : Nat) → List Char → Groups
  | 0, cs => ⟨[], false, cs⟩
  | room + 1, cs =>
    match if started then after? ':' cs else some cs with
    | none => ⟨[], false, cs⟩
    | some body =>
      match if room = 0 then none else readV4? body with
      | some (bits, rest) => ⟨[bits.extractLsb' 16 16, bits.extractLsb' 0 16], true, rest⟩
      | none =>
        match readGroup? body with
        | none => ⟨[], false, cs⟩
        | some (g, rest) =>
          let more := readGroups true room rest
          { more with list := g :: more.list }

/-- Reads eight groups, or fewer with `::` in place of the zero groups that are left out (at least one). -/
def readV6? (cs : List Char) : Option (BitVec 128 × List Char) := do
  let head := readGroups false 8 cs
  if head.list.length = 8 then return (ofGroups head.list, head.rest)
  if head.mixed then none
  let tail := readGroups false (7 - head.list.length) (← after? ':' (← after? ':' head.rest))
  let zeros := List.replicate (8 - head.list.length - tail.list.length) 0
  return (ofGroups (head.list ++ zeros ++ tail.list), tail.rest)

/-- The value read, if the reader takes the whole text. -/
def whole? {α : Type} : Option (α × List Char) → Option α
  | some (a, []) => some a
  | _ => none

/-- The address of version 4 that a text writes. -/
def v4? (s : String) : Option (BitVec 32) :=
  whole? (readV4? s.toList)

/-- The address of version 6 that a text writes. -/
def v6? (s : String) : Option (BitVec 128) :=
  whole? (readV6? s.toList)

/-- The address that a text writes. -/
def ofText? (s : String) : Option Address :=
  match v4? s with
  | some bits => some (.v4 bits)
  | none => (v6? s).map .v6

/-! ## Writing -/

/-- The index and length of the longest run of zero groups, the first of several. `index` is that of the first
group of the list, and `run` counts the zero groups right before it. -/
def longestZeros (index run : Nat) (best : Nat × Nat) : List (BitVec 16) → Nat × Nat
  | [] => if best.2 < run then (index - run, run) else best
  | g :: rest =>
    if g = 0 then longestZeros (index + 1) (run + 1) best rest
    else longestZeros (index + 1) 0 (if best.2 < run then (index - run, run) else best) rest

/-- Hexadecimal groups with colons between. -/
def groupsText (groups : List (BitVec 16)) : String :=
  ":".intercalate (groups.map fun g => String.ofList (Text.hexDigits g.toNat))

/-- The text of an address of version 6: `::` stands for the longest run of at least two zero groups. -/
def v6Text (bits : BitVec 128) : String :=
  let groups := groups bits
  let (start, run) := longestZeros 0 0 (0, 0) groups
  if run < 2 then groupsText groups
  else groupsText (groups.take start) ++ "::" ++ groupsText (groups.drop (start + run))

/-- The text of an address of version 4. -/
def v4Text (bits : BitVec 32) : String :=
  ".".intercalate ((octets bits).map fun b => toString b.toNat)

/-- The text of an address. -/
def text : Address → String
  | v4 bits => v4Text bits
  | v6 bits => v6Text bits

end Address

end EventRules.Network
