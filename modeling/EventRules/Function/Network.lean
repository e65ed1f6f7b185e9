import EventRules.Function.Arguments
import EventRules.Network.Subnet
import EventRules.Network.Url

/-!
# Functions on addresses and URLs
-/

namespace EventRules.NetworkFunctions

open Arguments Network

/-- Whether a text is an address of the version asked for; version 4 unless told otherwise. -/
def isAddress (args : List Value) : Except Error Value := do
  checkArity "IS_IP" args 1 (some 2)
  match text? (get args 0) with
  | none => return .bool false
  | some s =>
    let version := (← string? "IS_IP" args 1).getD "IPV4"
    return .bool <| match Text.toUpperAscii version with
      | "IPV4" => (Address.v4? s).isSome
      | "IPV6" => (Address.v6? s).isSome
      | "ANY" => (Address.ofText? s).isSome
      | _ => false

/-- Whether one of the subnets that the arguments from `index` on write holds the address. They are looked at in
order up to the first that does; null is passed over, and a text that writes no subnet holds nothing. -/
def inSomeSubnet (address : Address) (index : Nat) : (blocks : List Value) → Except Error Bool
  | [] => .ok false
  | .null :: rest => inSomeSubnet address (index + 1) rest
  | .string s :: rest =>
    if (Subnet.ofText? s).any (·.contains address) then .ok true
    else inSomeSubnet address (index + 1) rest
  | v :: _ => mismatch "IN_SUBNET" index "string" v

/-- Whether an address is in one of some subnets. -/
def inSubnet (args : List Value) : Except Error Value := do
  checkArity "IN_SUBNET" args 2 none
  match (text? (get args 0)).bind fun s => Address.ofText? (Text.trim s) with
  | none => return .bool false
  | some address => return .bool (← inSomeSubnet address 1 (args.drop 1))

/-- A part of the URL that the only argument writes, null if it has none or is no URL. -/
def urlPart (function : String) (part : Url → Option String) (args : List Value) : Except Error Value := do
  checkArity function args 1 (some 1)
  let url? := (← string? function args 0).bind fun s => Url.ofText? (Text.trim s)
  return ((url?.bind part).map .string).getD .null

def catalog : List Builtin := [
  .ofArgs "IS_IP" "Determine if a string is an IP address"
    ["ip - An object which we wish to test is an ip",
      "type (optional) - 'IPV4' or 'IPV6'; defaults to IPV4"]
    "True if the string is an IP and false otherwise" isAddress,
  .ofArgs "IN_SUBNET" "Returns true if an IP is within a subnet range"
    ["ip - The IP address in string form", "cidr+ - One or more IP ranges specified in CIDR notation"]
    "True if the IP address is within at least one of the ranges" inSubnet,
  .ofArgs "URL_TO_HOST" "Extract the hostname from a URL"
    ["url - URL in string form"] "The hostname from the URL as a string"
    (urlPart "URL_TO_HOST" fun url => url.host.map Host.text),
  .ofArgs "URL_TO_PROTOCOL" "Extract the protocol from a URL"
    ["url - URL in string form"] "The protocol from the URL as a string"
    (urlPart "URL_TO_PROTOCOL" fun url => some url.scheme)]

end EventRules.NetworkFunctions
