import EventRules.Network.DomainMapping
import EventRules.Network.Punycode
import EventRules.Text.Category
import EventRules.Text.Direction
import EventRules.Text.Joining
import EventRules.Text.Search

/-!
# Domain names

The form in which a domain name is looked up: labels of small ASCII letters, digits and other signs, a label with
further characters written by the punycode of it behind `xn--`. Names that no one could tell apart get one form, and
names that would be unreadable or misleading get none.
-/

namespace EventRules.Network.DomainName

open Text

/-- What starts a label that stands for one with further characters. -/
def encodedMark : List Char := "xn--".toList

/-- Whether an ASCII character may not stand in a name: blanks and controls, and what has a meaning in a URL. -/
def isRefusedAscii (c : Char) : Bool :=
  c.toNat ≤ 0x20 || c.toNat = 0x7F || "%#/:<>?@[\\]^|".toList.contains c

/-- Whether all characters are ASCII. -/
def isAscii (cs : List Char) : Bool :=
  cs.all (·.toNat < 128)

/-- The characters between points. -/
def labels (cs : List Char) : List (List Char) :=
  pieces ['.'] (cs.length + 1) cs

/-- Whether a label with characters above ASCII, which are already replaced, may stand in a name. -/
def isReadable (label : List Char) : Bool :=
  !label.head?.any markSet.contains && joinersInPlace [] label

/-- Whether a label that was written in code is the replaced form of itself, and needed the code. -/
def isProperlyEncoded (label : List Char) : Bool :=
  !isAscii label && label.all (fun c => domainImage? c == some [c]) && normalForm label == label &&
    !encodedMark.isPrefixOf label && !label.contains '.'

/-- The characters that a label stands for. -/
def unicodeLabel? (label : List Char) : Option (List Char) := do
  if encodedMark.isPrefixOf label then
    if !isAscii label then none
    let decoded ← Punycode.decode? (label.drop encodedMark.length)
    if isProperlyEncoded decoded && isReadable decoded then some decoded else none
  else if isAscii label || isReadable label then some label
  else none

/-- The written form of a label. -/
def asciiLabel (label : List Char) : List Char :=
  if isAscii label then label else encodedMark ++ Punycode.encode label

/-- Whether a label holds something that is written from right to left. -/
def holdsRightward (label : List Char) : Bool :=
  label.any fun c => (direction c).isRightward

/-- The form of a name for look-up, if it has one. -/
def ascii? (name : List Char) : Option String := do
  let mapped ← name.mapM domainImage?
  let labels := labels (normalForm mapped.flatten)
  let decoded ← labels.mapM unicodeLabel?
  if decoded.any (·.any isRefusedAscii) then none
  if decoded.any holdsRightward && !decoded.all isOneWay then none
  return ".".intercalate (labels.map fun label => String.ofList (asciiLabel label))

end EventRules.Network.DomainName
