import EventRules.Network.Address
import EventRules.Text.Search

/-!
# Subnets

The addresses that share their first bits with a given one. A subnet is written as an address with the number of
shared bits behind a slash; a bare address shares all of them and stands for itself alone.
-/

namespace EventRules.Network

/-- The addresses whose first `length` bits are those of `address`. -/
structure Subnet where
  address : Address
  length : Nat
  length_le : length ≤ address.width

namespace Subnet

/-- A word whose first `length` bits are ones and whose other bits are zeros. -/
def mask (width length : Nat) : BitVec width :=
  BitVec.allOnes width <<< (width - length)

/-- Whether two words agree in their first `length` bits. -/
def sameStart {width : Nat} (length : Nat) (a b : BitVec width) : Bool :=
  a &&& mask width length == b &&& mask width length

/-- Whether an address belongs to the subnet; one of the other version never does. -/
def contains (s : Subnet) (a : Address) : Bool :=
  match s.address, a with
  | .v4 own, .v4 bits => sameStart s.length own bits
  | .v6 own, .v6 bits => sameStart s.length own bits
  | _, _ => false

/-- The subnet of an address and a number of shared bits, if the address has that many. -/
def of? (address : Address) (length : Nat) : Option Subnet :=
  if h : length ≤ address.width then some ⟨address, length, h⟩ else none

/-- The subnet that a text writes. Blanks around the whole are skipped; the number may have a plus sign. -/
def ofText? (s : String) : Option Subnet := do
  let s := Text.trim s
  match Text.splitOnce? s "/" with
  | none =>
    let address ← Address.ofText? s
    of? address address.width
  | some (start, length) =>
    let address ← Address.ofText? start
    of? address (← Decimal.readNatBelow? (Nat.pow 2 32) length.toList)

end Subnet

end EventRules.Network
