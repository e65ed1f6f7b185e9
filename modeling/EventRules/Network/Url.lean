import EventRules.Network.Address
import EventRules.Network.DomainName
import EventRules.Text.Casing

/-!
# URLs

The scheme and the host of a URL. Both are taken as a web browser takes them: the schemes of the web put up with
missing or turned slashes, with hosts in capitals or in any script, and with numbers in place of an address; other
schemes keep their host as it stands. A text that a browser would refuse is no URL.
-/

namespace EventRules.Network

/-- The machine that a URL points to. -/
inductive Host
  | domain (name : String)
  | address (address : Address)
  deriving DecidableEq, Repr

/-- The text of a host; an address of version 6 stands in brackets. -/
def Host.text : Host → String
  | domain name => name
  | address (.v4 bits) => Address.v4Text bits
  | address (.v6 bits) => "[" ++ Address.v6Text bits ++ "]"

namespace Host

/-! ## Numbers in place of an address -/

/-- Whether all characters are digits below a base. -/
def areDigits (base : Nat) (cs : List Char) : Bool :=
  cs.all fun c => (Text.hexDigit? c).any (· < base)

/-- The number that digits write in a base. -/
def numberOf (base : Nat) (cs : List Char) : Nat :=
  cs.foldl (fun n c => base * n + (Text.hexDigit? c).getD 0) 0

/-- A part of a numeric host: hexadecimal after `0x`, octal after a further `0`, decimal otherwise. -/
def part? (cs : List Char) : Option Nat :=
  let (base, digits) := match cs with
    | '0' :: 'x' :: rest => (16, rest)
    | '0' :: 'X' :: rest => (16, rest)
    | '0' :: d :: rest => (8, d :: rest)
    | _ => (10, cs)
  if cs.isEmpty || !areDigits base digits then none else some (numberOf base digits)

/-- The parts of a host between points, without an empty last one. -/
def parts (host : List Char) : List (List Char) :=
  let parts := DomainName.labels host
  if parts.getLast? = some [] then parts.dropLast else parts

/-- Whether the last part is a number, so that the host can only be an address. -/
def endsInNumber (host : List Char) : Bool :=
  match (parts host).getLast? with
  | none => false
  | some part => !part.isEmpty && (part.all Char.isDigit || (part? part).isSome)

/-- The address of up to four numbers: each but the last gives one octet, the last gives those that are left. -/
def ofNumbers? (numbers : List Nat) : Option (BitVec 32) :=
  match numbers.reverse with
  | [] => none
  | last :: front =>
    if 4 < numbers.length || front.any (255 < ·) || Nat.pow 256 (5 - numbers.length) ≤ last then none
    else
      let high := front.reverse.foldl (fun n octet => 256 * n + octet) 0
      some (BitVec.ofNat 32 (high * Nat.pow 256 (5 - numbers.length) + last))

/-! ## Reading -/

/-- The bytes of a text in which `%` and two hexadecimal digits stand for a byte. -/
def decodedBytes : List Char → List UInt8
  | '%' :: h :: l :: rest =>
    match Text.hexDigit? h, Text.hexDigit? l with
    | some h, some l => UInt8.ofNat (16 * h + l) :: decodedBytes rest
    | _, _ => '%'.toNat.toUInt8 :: decodedBytes (h :: l :: rest)
  | c :: rest => (String.singleton c).toUTF8.toList ++ decodedBytes rest
  | [] => []

/-- The host in brackets, if the text starts with one. -/
def bracketed? (cs : List Char) : Option (Option Host) :=
  match cs with
  | '[' :: rest =>
    if rest.getLast? = some ']' then
      some ((Address.v6? (String.ofList rest.dropLast)).map fun bits => .address (.v6 bits))
    else some none
  | _ => none

/-- The host that a scheme of the web takes from a text. -/
def ofText? (cs : List Char) : Option Host := do
  match bracketed? cs with
  | some host? => host?
  | none =>
    let decoded ← String.fromUTF8? ⟨(decodedBytes cs).toArray⟩
    let name ← DomainName.ascii? decoded.toList
    if name.isEmpty then none
    else if endsInNumber name.toList then
      let numbers ← (parts name.toList).mapM part?
      return .address (.v4 (← ofNumbers? numbers))
    else return .domain name

/-- Whether a character may not stand in the host of another scheme. -/
def isRefused (c : Char) : Bool :=
  c = Char.ofNat 0 || "\t\n\r #/:<>?@[\\]^|".toList.contains c

/-- A character as it is written in the host of another scheme: controls and all above ASCII by their bytes. -/
def opaqueText (c : Char) : List Char :=
  if 0x20 ≤ c.toNat && c.toNat < 0x7F then [c]
  else (String.singleton c).toUTF8.toList.flatMap fun b =>
    '%' :: [Text.hexChar (b.toNat / 16), Text.hexChar b.toNat].map Char.toUpper

/-- The host that any other scheme takes from a text. -/
def ofOpaque? (cs : List Char) : Option Host :=
  match bracketed? cs with
  | some host? => host?
  | none =>
    if cs.any isRefused then none else some (.domain (String.ofList (cs.flatMap opaqueText)))

end Host

/-- The parts of a URL that rules ask for. -/
structure Url where
  scheme : String
  host : Option Host
  deriving DecidableEq, Repr

namespace Url

/-- How a scheme treats what follows it: `file`, the other schemes of the web, and all others. -/
inductive Kind
  | file
  | web
  | other
  deriving DecidableEq, Repr

/-- The kind of a scheme. -/
def Kind.ofScheme (scheme : String) : Kind :=
  if scheme = "file" then file
  else if ["http", "https", "ws", "wss", "ftp"].contains scheme then web
  else other

/-- Whether a character parts the host from the path; only the schemes of the web and `file` take a backslash. -/
def Kind.isSlash (kind : Kind) (c : Char) : Bool :=
  c = '/' || (c = '\\' && kind ≠ other)

/-- Whether a character ends the part of a URL that names the host. -/
def Kind.endsAuthority (kind : Kind) (c : Char) : Bool :=
  kind.isSlash c || c = '?' || c = '#'

/-- The text without controls and blanks at its ends, and without tabs and line breaks anywhere. -/
def clean (cs : List Char) : List Char :=
  let isEdge (c : Char) : Bool := c.toNat ≤ 0x20
  (((cs.dropWhile isEdge).reverse.dropWhile isEdge).reverse).filter fun c => !"\t\n\r".toList.contains c

/-- The scheme in small letters and what follows its colon. -/
def scheme? (cs : List Char) : Option (String × List Char) :=
  let isSchemeChar (c : Char) : Bool := c.isAlphanum || c = '+' || c = '-' || c = '.'
  match cs.head?.any Char.isAlpha, cs.dropWhile isSchemeChar with
  | true, ':' :: rest => some (String.ofList ((cs.takeWhile isSchemeChar).map Char.toLower), rest)
  | _, _ => none

/-! ## Host of a file -/

/-- Whether a text is a letter and a colon or bar, as drives are named. -/
def isDrive : List Char → Bool
  | [letter, mark] => letter.isAlpha && (mark = ':' || mark = '|')
  | _ => false

/-- Whether a segment of a path stands for the directory itself (`1`) or the one above (`2`). -/
def dots? (segment : List Char) : Option Nat :=
  match (String.ofList (segment.map Char.toLower)).replace "%2e" "." with
  | "." => some 1
  | ".." => some 2
  | _ => none

/-- Whether a path names a drive as its first directory; `depth` is the number of directories passed. -/
def startsWithDrive (depth : Nat) : (segments : List (List Char)) → Bool
  | [] => false
  | segment :: rest =>
    match dots? segment with
    | some 1 => startsWithDrive depth rest
    | some _ => startsWithDrive (depth - 1) rest
    | none => (depth = 0 && isDrive segment) || startsWithDrive (depth + 1) rest

/-- The pieces of a text between the characters of a class. -/
def segments (isEnd : Char → Bool) : List Char → List (List Char)
  | [] => [[]]
  | c :: rest =>
    if isEnd c then [] :: segments isEnd rest
    else match segments isEnd rest with
      | [] => [[c]]
      | first :: others => (c :: first) :: others

/-- The host of a file from what follows the scheme, nothing within if the file is on this machine. A path that
starts with a drive is one of this machine too. -/
def fileHost? (cs : List Char) : Option (Option Host) :=
  let isSlash := Kind.file.isSlash
  match cs with
  | a :: b :: rest =>
    if isSlash a && isSlash b then
      let name := rest.takeWhile (!Kind.file.endsAuthority ·)
      let path := (rest.dropWhile (!Kind.file.endsAuthority ·)).takeWhile fun c => c ≠ '?' && c ≠ '#'
      if name.isEmpty || isDrive name then some none
      else (Host.ofText? name).map fun host =>
        if host = .domain "localhost" || startsWithDrive 0 (segments isSlash (path.drop 1)) then none
        else some host
    else some none
  | _ => some none

/-! ## Authority -/

/-- Cuts a text at the first colon outside brackets. -/
def cutPort (inBrackets : Bool) : List Char → List Char × Option (List Char)
  | [] => ([], none)
  | c :: rest =>
    if c = ':' && !inBrackets then ([], some rest)
    else
      let inBrackets := if c = '[' then true else if c = ']' then false else inBrackets
      let (host, port) := cutPort inBrackets rest
      (c :: host, port)

/-- Whether a text is a port: digits below 65536, perhaps none. A backslash ends it. -/
def isPort (cs : List Char) : Bool :=
  let digits := cs.takeWhile Char.isDigit
  let rest := cs.dropWhile Char.isDigit
  (rest.isEmpty || rest.head? = some '\\') && Decimal.digitsValue digits < 65536

/-- The host from what follows the two slashes; nothing within if there is none. The name of a user stands before
the last `@`. -/
def authorityHost? (kind : Kind) (cs : List Char) : Option (Option Host) := do
  let authority := cs.takeWhile (!kind.endsAuthority ·)
  let machine := (authority.reverse.takeWhile (· ≠ '@')).reverse
  let user := authority.take (authority.length - machine.length)
  let (name, port) := cutPort false machine
  if name.isEmpty then
    let bare := user = [] || user = [':', '@'] || (user = ['@'] && authority.length = cs.length)
    if kind = .other && bare && port.isNone then some none else none
  else
    let host ← if kind = .other then Host.ofOpaque? name else Host.ofText? name
    if port.all isPort then some (some host) else none

/-- The URL that a text writes. -/
def ofText? (s : String) : Option Url := do
  let (scheme, rest) ← scheme? (clean s.toList)
  let kind := Kind.ofScheme scheme
  let host ← match kind, rest with
    | .file, _ => fileHost? rest
    | .web, _ => authorityHost? kind (rest.dropWhile kind.isSlash)
    | .other, '/' :: '/' :: rest => authorityHost? kind rest
    | .other, _ => some none
  return { scheme, host }

end Url

end EventRules.Network
