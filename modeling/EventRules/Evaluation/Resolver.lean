import EventRules.Decimal.Reader
import EventRules.Error
import EventRules.Value.Document

/-!
# Variables

A resolver gives every name a value, null to the names it does not know. A name that has no value of its own may be
a path: a base name and segments that lead into maps and lists. To read one as a path can break off.
-/

namespace EventRules

/-- What the variables stand for. -/
abbrev Resolver := String → Value

namespace Resolver

/-- No variable has a value. -/
def empty : Resolver := fun _ => .null

/-- The variables of a map. -/
def ofEntries (entries : Entries) : Resolver :=
  fun name => (Keyed.get? entries name).getD .null

/-- The members of an event. -/
def ofEvent (event : Members) : Resolver :=
  fun name => ((event.get? name).map Value.ofDocument).getD .null

/-- The variables that a function knows. -/
def ofFunction (f : String → Option Value) : Resolver :=
  fun name => (f name).getD .null

/-- Values laid over a resolver; a null among them hides what is below. -/
def layered (overlay : Entries) (base : Resolver) : Resolver :=
  fun name => (Keyed.get? overlay name).getD (base name)

end Resolver

/-- One step of a path. -/
inductive Segment where
  | key (name : String)
  | index (position : Nat)
  deriving DecidableEq, Repr

/-- Why a text is no path. -/
inductive PathFault where
  /-- There is no base name, a dot without a name after it, an open bracket or one with neither a key nor an index. -/
  | malformed
  /-- The last character before a closing bracket, which should be a quote, is cut. -/
  | brokenKey (inner : String)
  deriving DecidableEq, Repr

namespace Segment

/-- An index below 2^64. -/
def ofIndex (inner : List Char) : Except PathFault Segment :=
  match Decimal.readNatBelow? (Nat.pow 2 64) inner with
  | some position => .ok (.index position)
  | none => .error .malformed

/-- The segment inside a pair of brackets: a quoted key or an index. What stands at the place of the second quote is
not looked at, and a key ends before the last byte; that has to be a character of its own. -/
def ofBracket (inner : List Char) : Except PathFault Segment :=
  match inner with
  | first :: second :: rest =>
    if first = '\'' ∨ first = '"' then
      if ((second :: rest).getLast (List.cons_ne_nil second rest)).utf8Size = 1 then
        .ok (.key (String.ofList (second :: rest).dropLast))
      else .error (.brokenKey (String.ofList inner))
    else ofIndex inner
  | _ => ofIndex inner

/-- Takes the step at a value; null where it leads nowhere. -/
def step (value : Value) (segment : Segment) : Value :=
  match value, segment with
  | .map entries, .key name => (Keyed.get? entries name).getD .null
  | .map entries, .index position => (Keyed.get? entries (toString position)).getD .null
  | .list items, .index position => items[position]?.getD .null
  | _, _ => .null

end Segment

/-- A base name and the steps from its value. -/
structure Path where
  base : String
  segments : List Segment
  deriving DecidableEq, Repr

namespace Path

/-- Whether `c` starts a segment. -/
def startsSegment (c : Char) : Bool :=
  c = '.' || c = '['

/-- The segments of a text that starts with one: names after dots and brackets up to the next closing bracket. -/
def segmentsOf : (fuel : Nat) → List Char → Except PathFault (List Segment)
  | _, [] => .ok []
  | 0, _ => .error .malformed
  | fuel + 1, '.' :: rest =>
    let name := rest.takeWhile (!startsSegment ·)
    if name.isEmpty then .error .malformed
    else (segmentsOf fuel (rest.drop name.length)).map (.key (String.ofList name) :: ·)
  | fuel + 1, '[' :: rest =>
    let inner := rest.takeWhile (· ≠ ']')
    if inner.length = rest.length then .error .malformed
    else do
      let segment ← Segment.ofBracket inner
      let others ← segmentsOf fuel (rest.drop (inner.length + 1))
      return segment :: others
  | _, _ => .error .malformed

/-- The path that a name writes, if it is one. The segments are read before it is seen that there is no base name. -/
def ofName (name : String) : Except PathFault Path :=
  let cs := name.toList
  let base := cs.takeWhile (!startsSegment ·)
  match segmentsOf cs.length (cs.drop base.length) with
  | .ok segments => if base.isEmpty then .error .malformed else .ok ⟨String.ofList base, segments⟩
  | .error fault => .error fault

/-- The value at the end of the path. -/
def resolve (path : Path) (r : Resolver) : Value :=
  path.segments.foldl Segment.step (r path.base)

end Path

/-- The value of a variable: that of its name, or else that of the path which the name writes. -/
def Resolver.lookup (r : Resolver) (name : String) : Except Panic Value :=
  let direct := r name
  if !direct.isNull || !name.toList.any Path.startsSegment then .ok direct
  else match Path.ofName name with
    | .ok path => .ok (path.resolve r)
    | .error .malformed => .ok .null
    | .error (.brokenKey inner) => .error (.brokenKey inner)

end EventRules
