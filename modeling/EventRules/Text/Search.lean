import EventRules.Text.CharClass

/-!
# Searching and cutting text

Finding a text in another, cutting at every place where it stands, and trimming blanks.
-/

namespace EventRules.Text

/-- What stands before and after the first place of `needle` in the text. -/
def cut? (needle : List Char) (cs : List Char) : Option (List Char × List Char) :=
  if needle.isPrefixOf cs then some ([], cs.drop needle.length)
  else match cs with
    | [] => none
    | c :: rest => (cut? needle rest).map fun parts => (c :: parts.1, parts.2)

/-- Whether `needle` stands anywhere in the text. -/
def contains (s needle : String) : Bool :=
  (cut? needle.toList s.toList).isSome

/-- The pieces between the places of a separator, from left to right, with at most `fuel` cuts. -/
def pieces (separator : List Char) : (fuel : Nat) → List Char → List (List Char)
  | 0, cs => [cs]
  | fuel + 1, cs =>
    match cut? separator cs with
    | none => [cs]
    | some (before, after) => before :: pieces separator fuel after

/-- The pieces of a text between the places of a separator; there is no cut at an empty separator. -/
def split (s separator : String) : List String :=
  if separator.isEmpty then [s]
  else (pieces separator.toList (s.toList.length + 1) s.toList).map String.ofList

/-- What stands before and after the first place of a separator. -/
def splitOnce? (s separator : String) : Option (String × String) :=
  (cut? separator.toList s.toList).map fun parts => (String.ofList parts.1, String.ofList parts.2)

/-- Whether the text starts with another. -/
def startsWith (s start : String) : Bool :=
  start.toList.isPrefixOf s.toList

/-- Whether the text ends with another. -/
def endsWith (s tail : String) : Bool :=
  tail.toList.isSuffixOf s.toList

/-- The characters without blanks at either end. -/
def trimChars (cs : List Char) : List Char :=
  ((cs.dropWhile isBlank).reverse.dropWhile isBlank).reverse

/-- The text without blanks at either end. -/
def trim (s : String) : String :=
  String.ofList (trimChars s.toList)

end EventRules.Text
