import EventRules.Regex.Compiled
import EventRules.Text.Search

/-!
# Replacement

Replacing the matches of a regular expression. A dollar sign in the replacement stands for the text of a group when
the number or name of one follows, in braces or up to the first other character than an ASCII letter, digit or
underscore; two dollar signs stand for one.
-/

namespace EventRules.Regex

open Text

/-- A part of a replacement: text as it stands, or the group of a number or name. -/
inductive Part
  | text (cs : List Char)
  | group (reference : String)
  deriving DecidableEq, Repr

/-- Whether a character may stand in a reference without braces. -/
def isReferenceChar (c : Char) : Bool :=
  c.isAlphanum || c = '_'

/-- A reference at the start of what follows a dollar sign, and what follows it. -/
def reference? : List Char → Option (String × List Char)
  | '{' :: rest =>
    match rest.dropWhile (· ≠ '}') with
    | [] => none
    | _ :: after => some (String.ofList (rest.takeWhile (· ≠ '}')), after)
  | cs =>
    match cs.takeWhile isReferenceChar with
    | [] => none
    | name => some (String.ofList name, cs.dropWhile isReferenceChar)

/-- The parts of a replacement, with at most `fuel` of them. -/
def parts : (fuel : Nat) → List Char → List Part
  | 0, _ => []
  | _ + 1, [] => []
  | fuel + 1, '$' :: '$' :: rest => .text ['$'] :: parts fuel rest
  | fuel + 1, '$' :: rest =>
    match reference? rest with
    | some (name, rest) => .group name :: parts fuel rest
    | none => .text ['$'] :: parts fuel rest
  | fuel + 1, c :: rest => .text [c] :: parts fuel rest

/-- The number of the group that a reference means. A number is one even if no group has it. -/
def Compiled.groupOf? (r : Compiled) (reference : String) : Option Nat :=
  match Decimal.readNatBelow? (Nat.pow 2 64) reference.toList with
  | some n => some n
  | none => r.groupNamed? reference

/-- What a part of the replacement becomes for a match. -/
def Compiled.expand (r : Compiled) (text : Array Char) (m : Match) : Part → List Char
  | .text cs => cs
  | .group name => (((r.groupOf? name).bind m.span?).map (slice text)).getD []

/-- The text with its matches replaced, from `index` on. -/
def Compiled.fill (r : Compiled) (text : Array Char) (parts : List Part) (index : Nat) : List Match → List Char
  | [] => slice text (index, text.size)
  | m :: rest =>
    slice text (index, m.start) ++ parts.flatMap (r.expand text m) ++ r.fill text parts m.stop rest

/-- The text with every match replaced. -/
def Compiled.replaceAll (r : Compiled) (s replacement : String) : String :=
  let text := s.toList
  let parts := parts (replacement.length + 1) replacement.toList
  String.ofList (r.fill text.toArray parts 0 (r.findAll text))

end EventRules.Regex
