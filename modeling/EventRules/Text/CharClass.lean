import EventRules.Text.Category
import EventRules.Text.Property

/-!
# Classes of characters

The Unicode classes that reading and writing text rests on: letters, numbers, blanks, cased and case-ignorable
characters, combining marks and printable characters. Below U+0080 each class is told by a short test, above it by
the tables of categories and properties.
-/

namespace EventRules.Text

/-- The letters (the property Alphabetic). -/
def alphabeticTable : CharSet :=
  (property? "alphabetic").getD .empty

/-- The numbers of all kinds. -/
def numericTable : CharSet :=
  Category.set Category.numbers

/-- The characters that have a case (the property Cased). -/
def casedTable : CharSet :=
  (property? "cased").getD .empty

/-- The characters that a search for a cased neighbour passes over (the property Case_Ignorable). -/
def caseIgnorableTable : CharSet :=
  (property? "caseignorable").getD .empty

/-- The characters that extend the one before them (the property Grapheme_Extend). -/
def graphemeExtendTable : CharSet :=
  (property? "graphemeextend").getD .empty

/-- Control and format characters, separators, private use and unassigned code points. -/
def nonPrintingTable : CharSet :=
  Category.set (Category.others ++ Category.separators)

/-- Whether `c` is a letter. -/
def isAlphabetic (c : Char) : Bool :=
  if c.toNat < 128 then c.isAlpha else alphabeticTable.contains c

/-- Whether `c` is a number of any kind: a decimal digit, a letter number or another number. -/
def isNumeric (c : Char) : Bool :=
  if c.toNat < 128 then c.isDigit else numericTable.contains c

/-- Whether `c` is a letter or a number. -/
def isAlphanumeric (c : Char) : Bool :=
  isAlphabetic c || isNumeric c

/-- Whether `c` is white space (the property White_Space). -/
def isBlank (c : Char) : Bool :=
  let n := c.toNat
  if n < 128 then n == 0x20 || 0x09 ≤ n && n ≤ 0x0D
  else n == 0x85 || n == 0xA0 || n == 0x1680 || 0x2000 ≤ n && n ≤ 0x200A || n == 0x2028 || n == 0x2029 ||
    n == 0x202F || n == 0x205F || n == 0x3000

/-- Whether `c` has an upper, lower or title case. -/
def isCased (c : Char) : Bool :=
  if c.toNat < 128 then c.isAlpha else casedTable.contains c

/-- Whether a search for a cased neighbour passes over `c`. -/
def isCaseIgnorable (c : Char) : Bool :=
  if c.toNat < 128 then [0x27, 0x2E, 0x3A, 0x5E, 0x60].contains c.toNat else caseIgnorableTable.contains c

/-- Whether `c` extends the character before it, as a combining mark does. -/
def isGraphemeExtend (c : Char) : Bool :=
  128 ≤ c.toNat && graphemeExtendTable.contains c

/-- Whether `c` has a visible form of its own; the plain blank counts, no other separator does. -/
def isPrintable (c : Char) : Bool :=
  if c.toNat < 128 then 0x20 ≤ c.toNat && c.toNat ≤ 0x7E else !nonPrintingTable.contains c

end EventRules.Text
