import EventRules.Regex.Basic
import EventRules.Text.Folding
import EventRules.Text.Script
import EventRules.Text.Search

/-!
# Named classes

The sets of characters that a regular expression can name: digits, blanks and word characters, the classes of ASCII
in brackets, and the categories, scripts and properties of Unicode. Names are compared without regard to case,
blanks, hyphens and underscores.
-/

namespace EventRules.Regex

open Text

/-- The decimal digits of all scripts. -/
def digitSet : CharSet :=
  Category.set [.Nd]

/-- The white space of all scripts. -/
def spaceSet : CharSet :=
  (property? "whitespace").getD .empty

/-- The class of an escape letter: `d` for digits, `s` for white space, `w` for word characters. -/
def letterClass? (unicode : Bool) (letter : Char) : Option CharSet :=
  match letter with
  | 'd' => some (if unicode then digitSet else .ofRange 0x30 0x39)
  | 's' => some (if unicode then spaceSet else ⟨#[(0x09, 0x0D), (0x20, 0x20)]⟩)
  | 'w' => some (if unicode then wordSet else wordSetAscii)
  | _ => none

/-- The class of ASCII with a name. -/
def asciiClass? (name : String) : Option CharSet :=
  match name with
  | "alnum" => some ⟨#[(0x30, 0x39), (0x41, 0x5A), (0x61, 0x7A)]⟩
  | "alpha" => some ⟨#[(0x41, 0x5A), (0x61, 0x7A)]⟩
  | "ascii" => some ⟨#[(0x00, 0x7F)]⟩
  | "blank" => some ⟨#[(0x09, 0x09), (0x20, 0x20)]⟩
  | "cntrl" => some ⟨#[(0x00, 0x1F), (0x7F, 0x7F)]⟩
  | "digit" => some ⟨#[(0x30, 0x39)]⟩
  | "graph" => some ⟨#[(0x21, 0x7E)]⟩
  | "lower" => some ⟨#[(0x61, 0x7A)]⟩
  | "print" => some ⟨#[(0x20, 0x7E)]⟩
  | "punct" => some ⟨#[(0x21, 0x2F), (0x3A, 0x40), (0x5B, 0x60), (0x7B, 0x7E)]⟩
  | "space" => some ⟨#[(0x09, 0x0D), (0x20, 0x20)]⟩
  | "upper" => some ⟨#[(0x41, 0x5A)]⟩
  | "word" => some wordSetAscii
  | "xdigit" => some ⟨#[(0x30, 0x39), (0x41, 0x46), (0x61, 0x66)]⟩
  | _ => none

/-- A name as it is compared: ASCII only, small letters, without blanks, hyphens, underscores and a leading `is`. -/
def plainName (cs : List Char) : String :=
  let body : List Char := match cs with
    | a :: b :: rest => if a.toLower = 'i' ∧ b.toLower = 's' then rest else cs
    | _ => cs
  let kept := (body.filter fun c => c.toNat < 128 && !" _-".toList.contains c).map Char.toLower
  if body.length < cs.length ∧ kept = ['c'] then "isc" else String.ofList kept

/-- The categories that a name stands for. -/
def categories? (name : String) : Option (List Category) :=
  (table.find? (·.1.contains name)).map (·.2)
where
  table : List (List String × List Category) := [
    (["other", "c"], Category.others), (["control", "cc", "cntrl"], [.Cc]), (["format", "cf"], [.Cf]),
    (["unassigned", "cn"], [.Cn]), (["privateuse", "co"], [.Co]), (["surrogate", "cs"], [.Cs]),
    (["letter", "l"], Category.letters), (["casedletter", "lc"], [.Lu, .Ll, .Lt]),
    (["lowercaseletter", "ll"], [.Ll]), (["modifierletter", "lm"], [.Lm]), (["otherletter", "lo"], [.Lo]),
    (["titlecaseletter", "lt"], [.Lt]), (["uppercaseletter", "lu"], [.Lu]),
    (["mark", "m", "combiningmark"], Category.marks), (["spacingmark", "mc"], [.Mc]),
    (["enclosingmark", "me"], [.Me]), (["nonspacingmark", "mn"], [.Mn]),
    (["number", "n"], Category.numbers), (["decimalnumber", "nd", "digit"], [.Nd]),
    (["letternumber", "nl"], [.Nl]), (["othernumber", "no"], [.No]),
    (["punctuation", "p", "punct"], Category.punctuation), (["connectorpunctuation", "pc"], [.Pc]),
    (["dashpunctuation", "pd"], [.Pd]), (["closepunctuation", "pe"], [.Pe]),
    (["finalpunctuation", "pf"], [.Pf]), (["initialpunctuation", "pi"], [.Pi]),
    (["otherpunctuation", "po"], [.Po]), (["openpunctuation", "ps"], [.Ps]),
    (["symbol", "s"], Category.symbols), (["currencysymbol", "sc"], [.Sc]), (["modifiersymbol", "sk"], [.Sk]),
    (["mathsymbol", "sm"], [.Sm]), (["othersymbol", "so"], [.So]),
    (["separator", "z"], Category.separators), (["lineseparator", "zl"], [.Zl]),
    (["paragraphseparator", "zp"], [.Zp]), (["spaceseparator", "zs"], [.Zs])]

/-- The set of a category or of one of the unions that go by a name. -/
def categorySet? (name : String) : Option CharSet :=
  match name with
  | "any" => some .full
  | "assigned" => some (Category.set [.Cn]).complement
  | "ascii" => some (.ofRange 0 0x7F)
  | _ => (categories? name).map Category.set

/-- The set of a property, category or script with a name. -/
def namedSet? (name : String) : Option CharSet :=
  (property? name).orElse fun _ => (categorySet? name).orElse fun _ => script? name

/-- The set of a value of a property. -/
def valueSet? (property value : String) : Option CharSet :=
  match property with
  | "generalcategory" | "gc" => categorySet? value
  | "script" | "sc" => script? value
  | "scriptextensions" | "scx" => scriptExtension? value
  | _ => none

/-- The set that the text between the braces of a Unicode class stands for: a name, or a property with one of its
values behind `=`, `:` or `!=`. The flag says that all other characters are meant. -/
def unicodeClass? (text : List Char) : Option (CharSet × Bool) :=
  let value? (parts : List Char × List Char) : Option CharSet :=
    valueSet? (plainName parts.1) (plainName parts.2)
  match cut? ['!', '='] text with
  | some parts => (value? parts).map fun set => (set, true)
  | none =>
    match (cut? [':'] text).orElse fun _ => cut? ['='] text with
    | some parts => (value? parts).map fun set => (set, false)
    | none => (namedSet? (plainName text)).map fun set => (set, false)

end EventRules.Regex
