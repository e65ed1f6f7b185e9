import EventRules.Text.CharClass

/-!
# Regular expressions

The tree of a regular expression once flags, classes and names are resolved: sets of characters, places between
characters, groups that are kept, sequences, alternatives in order of preference, and repetitions.
-/

namespace EventRules.Regex

open Text

/-- The characters that make words. -/
def wordSet : CharSet :=
  (alphabeticTable.union (Category.set (Category.marks ++ [.Nd, .Pc]))).union (.ofRange 0x200C 0x200D)

/-- The ASCII characters that make words. -/
def wordSetAscii : CharSet :=
  ⟨#[(0x30, 0x39), (0x41, 0x5A), (0x5F, 0x5F), (0x61, 0x7A)]⟩

/-- Whether a character makes words. -/
def isWord (unicode : Bool) (c : Char) : Bool :=
  if unicode && 128 ≤ c.toNat then wordSet.contains c else wordSetAscii.contains c

/-- A condition on a place in a text. Those on lines come with the two kinds of line ends, those on words with
or without the characters above ASCII. -/
inductive Look
  | textStart
  | textEnd
  | lineStart (crlf : Bool)
  | lineEnd (crlf : Bool)
  | wordEdge (unicode : Bool)
  | noWordEdge (unicode : Bool)
  | wordStart (unicode : Bool)
  | wordEnd (unicode : Bool)
  | wordStartHalf (unicode : Bool)
  | wordEndHalf (unicode : Bool)
  deriving DecidableEq, Repr

/-- Whether the condition holds between two characters; at an end of the text there is none. A line ends at a line
feed, or with `crlf` at a carriage return, a line feed or both together. -/
def Look.holds (l : Look) (before after : Option Char) : Bool :=
  let word (unicode : Bool) (c? : Option Char) : Bool := c?.any (isWord unicode)
  match l with
  | textStart => before.isNone
  | textEnd => after.isNone
  | lineStart false => before.isNone || before == some '\n'
  | lineStart true =>
    before.isNone || before == some '\n' || (before == some '\r' && after != some '\n')
  | lineEnd false => after.isNone || after == some '\n'
  | lineEnd true =>
    after.isNone || after == some '\r' || (after == some '\n' && before != some '\r')
  | wordEdge u => word u before != word u after
  | noWordEdge u => word u before == word u after
  | wordStart u => !word u before && word u after
  | wordEnd u => word u before && !word u after
  | wordStartHalf u => !word u before
  | wordEndHalf u => !word u after

/-- A regular expression. Of two alternatives the first is preferred; a greedy repetition prefers more rounds. -/
inductive Expr
  | empty
  | chars (set : CharSet)
  | look (l : Look)
  | group (index : Nat) (body : Expr)
  | sequence (first second : Expr)
  | either (first second : Expr)
  | times (body : Expr) (least : Nat) (most : Option Nat) (greedy : Bool)
  deriving Inhabited

namespace Expr

/-- Whether the expression can match the empty text as far as its shape tells. -/
def mayBeEmpty : Expr → Bool
  | empty => true
  | chars _ => false
  | look _ => true
  | group _ e => e.mayBeEmpty
  | sequence a b => a.mayBeEmpty && b.mayBeEmpty
  | either a b => a.mayBeEmpty || b.mayBeEmpty
  | times e least _ _ => least == 0 || e.mayBeEmpty

/-- Whether the expression matches nothing but the empty text. -/
def isAlwaysEmpty : Expr → Bool
  | empty => true
  | chars _ => false
  | look _ => true
  | group _ e => e.isAlwaysEmpty
  | sequence a b => a.isAlwaysEmpty && b.isAlwaysEmpty
  | either a b => a.isAlwaysEmpty && b.isAlwaysEmpty
  | times e _ most _ => most == some 0 || e.isAlwaysEmpty

/-- A repetition. What matches the empty text only is repeated at most once, and no round at all is empty. -/
def repeated (e : Expr) (least : Nat) (most : Option Nat) (greedy : Bool) : Expr :=
  let (least, most) :=
    if e.isAlwaysEmpty then (min least 1, some (min (most.getD 1) 1)) else (least, most)
  if least = 0 ∧ most = some 0 then empty
  else if least = 1 ∧ most = some 1 then e
  else times e least most greedy

/-- The expressions one after another. -/
def sequenceOf : List Expr → Expr
  | [] => empty
  | [e] => e
  | e :: rest => sequence e (sequenceOf rest)

/-- The expressions as alternatives in order of preference. -/
def eitherOf : List Expr → Expr
  | [] => empty
  | [e] => e
  | e :: rest => either e (eitherOf rest)

end Expr

end EventRules.Regex
