import EventRules.Regex.Class
import EventRules.Text.Hex

/-!
# Syntax of regular expressions

Reads the text of a regular expression into its tree. Flags hold from where they are set to the end of the group
that sets them. With the flag `x`, blanks and comments are skipped between the parts of an expression. Without the
flag `u` an expression knows the characters of ASCII only, and what would match half a character is refused.
-/

namespace EventRules.Regex

open Text

/-- What flags say about the expressions that follow them. -/
structure Flags where
  ignoreCase : Bool := false
  multiLine : Bool := false
  dotAll : Bool := false
  swapGreed : Bool := false
  unicode : Bool := true
  crlf : Bool := false
  verbose : Bool := false
  deriving DecidableEq, Repr

/-- Turns the flag of a letter on or off. -/
def Flags.set? (f : Flags) (letter : Char) (on : Bool) : Option Flags :=
  match letter with
  | 'i' => some { f with ignoreCase := on }
  | 'm' => some { f with multiLine := on }
  | 's' => some { f with dotAll := on }
  | 'U' => some { f with swapGreed := on }
  | 'u' => some { f with unicode := on }
  | 'R' => some { f with crlf := on }
  | 'x' => some { f with verbose := on }
  | _ => none

/-- A class as the flags want it: with all cases of its characters, and turned into its complement if asked. -/
def Flags.finish? (f : Flags) (negated : Bool) (set : CharSet) : Option CharSet :=
  let set :=
    if !f.ignoreCase then set else if f.unicode then set.foldCase else set.foldCaseAscii
  if !negated then some set else if f.unicode then some set.complement else none

/-- Where reading stands: the text that is left, the flags that hold, and the names of the groups opened so far,
last first. -/
structure Scan where
  rest : List Char
  flags : Flags := {}
  groups : List (Option String) := []

/-- A step of reading, which fails where the text is no regular expression. -/
abbrev Reading := StateT Scan Option

/-- A part of an expression with the depth to which its syntax is nested. Only what stands for something can be
repeated. -/
structure Piece where
  expr : Expr
  depth : Nat := 0
  repeatable : Bool := true

/-- What has been read behind a backslash or by itself, before flags are applied. A character written by two
hexadecimal digits is marked. -/
inductive Atom
  | literal (c : Char) (isByte : Bool)
  | chars (set : CharSet)
  | look (l : Look)

/-! ## Characters -/

/-- What follows the blanks and comments at the start; a comment goes from `#` to the end of its line. -/
def dropIgnored (inComment : Bool) : List Char → List Char
  | [] => []
  | c :: rest =>
    if inComment then dropIgnored (c ≠ '\n') rest
    else if isBlank c then dropIgnored false rest
    else if c = '#' then dropIgnored true rest
    else c :: rest

/-- What follows at the start once everything ignored is skipped. -/
def Flags.skip (f : Flags) (cs : List Char) : List Char :=
  if f.verbose then dropIgnored false cs else cs

/-- The characters of a class at the start, with everything ignored between them left out, and what follows. -/
def Flags.span (f : Flags) (p : Char → Bool) : (fuel : Nat) → List Char → List Char × List Char
  | fuel + 1, c :: rest =>
    if p c then
      let (taken, rest) := f.span p fuel (f.skip rest)
      (c :: taken, rest)
    else ([], c :: rest)
  | _, cs => ([], cs)

/-- The next character, if there is one; it is not passed. -/
def peek? : Reading (Option Char) := do
  return (← get).rest.head?

/-- Passes the next character. -/
def take : Reading Char := do
  match (← get).rest with
  | [] => failure
  | c :: rest =>
    modify fun s => { s with rest }
    return c

/-- Skips everything ignored. -/
def skip : Reading Unit :=
  modify fun s => { s with rest := s.flags.skip s.rest }

/-- Passes the next character and everything ignored after it. -/
def takeAndSkip : Reading Char := do
  let c ← take
  skip
  return c

/-- Passes a certain character. -/
def expect (c : Char) : Reading Unit := do
  if (← take) = c then return else failure

/-- Passes a text if it comes next. -/
def takeText (text : String) : Reading Bool := do
  let s ← get
  if text.toList.isPrefixOf s.rest then
    set { s with rest := s.rest.drop text.length }
    return true
  else return false

/-- Passes the characters of a class with everything ignored between and after them. -/
def takeWhile (p : Char → Bool) : Reading (List Char) := do
  let s ← get
  let (taken, rest) := s.flags.span p s.rest.length s.rest
  set { s with rest }
  return taken

/-! ## Escapes -/

/-- The character of a hexadecimal number. -/
def charOfHex (digits : List Char) : Reading Char :=
  match (hexValue? digits).bind charOfCode? with
  | some c => return c
  | none => failure

/-- A fixed number of hexadecimal digits. -/
def takeHex : (count : Nat) → Reading (List Char)
  | 0 => return []
  | count + 1 => do
    let c ← takeAndSkip
    if !isHexDigit c then failure
    return c :: (← takeHex count)

/-- A character by its number: digits in braces, or as many as the letter `x`, `u` or `U` asks for. -/
def hexEscape (letter : Char) : Reading Atom := do
  skip
  if (← peek?) = some '{' then
    let _ ← takeAndSkip
    let digits ← takeWhile (· ≠ '}')
    expect '}'
    if digits.isEmpty then failure
    return .literal (← charOfHex digits) false
  else
    let count := if letter = 'x' then 2 else if letter = 'u' then 4 else 8
    return .literal (← charOfHex (← takeHex count)) (letter = 'x')

/-- A Unicode class: one letter, or a name in braces. -/
def unicodeEscape (negated : Bool) : Reading Atom := do
  skip
  let name ←
    if (← peek?) = some '{' then do
      let _ ← takeAndSkip
      let name ← takeWhile (· ≠ '}')
      expect '}'
      pure name
    else do
      let c ← takeAndSkip
      if c = '\\' then failure
      pure [c]
  let flags := (← get).flags
  if !flags.unicode then failure
  let some (set, others) := unicodeClass? name | failure
  let some set := flags.finish? (negated != others) set | failure
  return .chars set

/-- The condition that stands in braces behind an escaped `b`, if there is one. -/
def wordCondition? (unicode : Bool) : Reading (Option Look) := do
  let isNameChar (c : Char) : Bool := c.isAlpha || c = '-'
  let start ← get
  let _ ← takeAndSkip
  match ← peek? with
  | none => failure
  | some c =>
    if !isNameChar c then
      set start
      return none
    let name ← takeWhile isNameChar
    expect '}'
    match String.ofList name with
    | "start" => return some (.wordStart unicode)
    | "end" => return some (.wordEnd unicode)
    | "start-half" => return some (.wordStartHalf unicode)
    | "end-half" => return some (.wordEndHalf unicode)
    | _ => failure

/-- Whether an escaped character stands for itself: any of ASCII but letters, digits and angle brackets. -/
def isSelfEscape (c : Char) : Bool :=
  c.toNat < 128 && !c.isAlphanum && c ≠ '<' && c ≠ '>'

/-- What follows a backslash. -/
def escape : Reading Atom := do
  let c ← take
  let unicode := (← get).flags.unicode
  let control (code : Nat) : Reading Atom := return .literal (Char.ofNat code) false
  match c with
  | 'x' | 'u' | 'U' => hexEscape c
  | 'p' => unicodeEscape false
  | 'P' => unicodeEscape true
  | 'd' | 's' | 'w' =>
    let some set := letterClass? unicode c | failure
    return .chars set
  | 'D' | 'S' | 'W' =>
    let some set := letterClass? unicode c.toLower | failure
    if unicode then return .chars set.complement else failure
  | 'a' => control 0x07
  | 'f' => control 0x0C
  | 't' => control 0x09
  | 'n' => control 0x0A
  | 'r' => control 0x0D
  | 'v' => control 0x0B
  | 'A' => return .look .textStart
  | 'z' => return .look .textEnd
  | 'b' =>
    if (← peek?) = some '{' then return .look ((← wordCondition? unicode).getD (.wordEdge unicode))
    else return .look (.wordEdge unicode)
  | 'B' => return .look (.noWordEdge unicode)
  | '<' => return .look (.wordStart unicode)
  | '>' => return .look (.wordEnd unicode)
  | _ => if isSelfEscape c then return .literal c false else failure

/-- The expression of a character under the flags. -/
def Flags.literal? (f : Flags) (c : Char) (isByte : Bool) : Option Expr :=
  if !f.unicode && 128 ≤ c.toNat && (isByte || f.ignoreCase) then none
  else (f.finish? false (.single c)).map .chars

/-- The expression of an atom under the flags. -/
def atomPiece : Atom → Reading Piece
  | .literal c isByte => do
    match (← get).flags.literal? c isByte with
    | some expr => return { expr }
    | none => failure
  | .chars set => return { expr := .chars set }
  | .look l => return { expr := .look l }

/-- The expression of a character that stands by itself. -/
def plainPiece (c : Char) : Reading Piece := do
  let f := (← get).flags
  match c with
  | '\\' => atomPiece (← escape)
  | '.' =>
    if !f.unicode then failure
    let excluded := if f.dotAll then [] else if f.crlf then ['\r', '\n'] else ['\n']
    return { expr := .chars (CharSet.ofChars excluded).complement }
  | '^' => return { expr := .look (if f.multiLine then .lineStart f.crlf else .textStart) }
  | '$' => return { expr := .look (if f.multiLine then .lineEnd f.crlf else .textEnd) }
  | _ => atomPiece (.literal c false)

/-! ## Classes in brackets -/

/-- A part of a class with the depth of its brackets. -/
structure Operand where
  set : CharSet
  depth : Nat := 0

/-- The operations between the parts of a class. -/
inductive SetOp
  | inter
  | diff
  | symmDiff
  deriving DecidableEq, Repr

/-- The set of an operation. -/
def SetOp.apply : SetOp → CharSet → CharSet → CharSet
  | inter => CharSet.inter
  | diff => CharSet.diff
  | symmDiff => CharSet.symmDiff

/-- The union of the items that stand side by side. -/
def unionOf (items : List Operand) : Operand :=
  match items with
  | [] => { set := .empty }
  | [item] => item
  | _ =>
    { set := CharSet.ofRanges (items.flatMap (·.set.ranges.toList))
      depth := 1 + items.foldl (fun d item => max d item.depth) 0 }

/-- Applies the operation that waits for its second operand, if there is one. -/
def applyPending (f : Flags) (pending : Option (SetOp × Operand)) (right : Operand) : Option Operand := do
  match pending with
  | none => return right
  | some (op, left) =>
    let a ← f.finish? false left.set
    let b ← f.finish? false right.set
    return { set := op.apply a b, depth := 1 + max left.depth right.depth }

/-- An atom of a class: an escape or a character by itself. -/
def classAtom : Reading Atom := do
  let c ← take
  if c = '\\' then escape else return .literal c false

/-- The character of an atom, which a range needs. -/
def classChar : Atom → Reading Char
  | .literal c _ => do
    if !(← get).flags.unicode && 128 ≤ c.toNat then failure
    return c
  | _ => failure

/-- The characters of an atom. -/
def classSet : Atom → Reading CharSet
  | .chars set => return set
  | a => return .single (← classChar a)

/-- A range, or an atom by itself. A hyphen before the closing bracket or another hyphen makes no range. -/
def classRange : Reading Operand := do
  let first ← classAtom
  skip
  let s ← get
  match s.rest with
  | [] => failure
  | '-' :: more =>
    let after := (s.flags.skip more).head?
    if after = some ']' ∨ after = some '-' then return { set := ← classSet first }
    let _ ← takeAndSkip
    let last ← classAtom
    let low ← classChar first
    let high ← classChar last
    if high < low then failure
    return { set := .ofRange low.toNat high.toNat }
  | _ => return { set := ← classSet first }

/-- A class of ASCII by its name between `[:` and `:]`, if it comes next. -/
def namedClass? : Reading (Option Operand) := do
  let s ← get
  match s.rest with
  | '[' :: ':' :: rest =>
    let (negated, rest) := match rest with
      | '^' :: rest => (true, rest)
      | _ => (false, rest)
    let (name, rest) := rest.span (· ≠ ':')
    match rest, asciiClass? (String.ofList name) with
    | ':' :: ']' :: rest, some named =>
      set { s with rest }
      match s.flags.finish? negated named with
      | some finished => return some { set := finished }
      | none => failure
    | _, _ => return none
  | _ => return none

/-- The start of a class: whether it is negated, and the hyphens or the closing bracket that stand for themselves
in front of all else. -/
def classStart : Reading (Bool × List Operand) := do
  let _ ← takeAndSkip
  let negated := (← peek?) = some '^'
  if negated then
    let _ ← takeAndSkip
  let hyphens ← takeWhile (· = '-')
  let items := hyphens.map fun c => { set := .single c : Operand }
  match ← peek? with
  | none => failure
  | some c =>
    if items.isEmpty && c = ']' then
      let _ ← takeAndSkip
      if (← peek?).isNone then failure
      return (negated, [{ set := .single c }])
    else return (negated, items)

/-- The operation between two parts of a class, if it comes next. -/
def setOp? : Reading (Option SetOp) := do
  if ← takeText "&&" then return some .inter
  if ← takeText "--" then return some .diff
  if ← takeText "~~" then return some .symmDiff
  return none

/-- What stands between the start of a class and its closing bracket, which is passed. `items` are those read since
the last operation, last first. -/
def classBody : (fuel : Nat) → (pending : Option (SetOp × Operand)) → (items : List Operand) → Reading Operand
  | 0, _, _ => failure
  | fuel + 1, pending, items => do
    skip
    let flags := (← get).flags
    match ← peek? with
    | none => failure
    | some ']' =>
      let _ ← take
      match applyPending flags pending (unionOf items.reverse) with
      | some whole => return whole
      | none => failure
    | some '[' =>
      match ← namedClass? with
      | some item => classBody fuel pending (item :: items)
      | none =>
        let (negated, start) ← classStart
        let inner ← classBody fuel none start.reverse
        let some set := flags.finish? negated inner.set | failure
        classBody fuel pending ({ set, depth := 1 + inner.depth } :: items)
    | some _ =>
      match ← setOp? with
      | some op =>
        match applyPending flags pending (unionOf items.reverse) with
        | some left => classBody fuel (some (op, left)) []
        | none => failure
      | none =>
        let item ← classRange
        classBody fuel pending (item :: items)

/-- A class in brackets. -/
def bracketPiece : Reading Piece := do
  let (negated, start) ← classStart
  let inner ← classBody ((← get).rest.length + 1) none start.reverse
  match (← get).flags.finish? negated inner.set with
  | some set => return { expr := .chars set, depth := 1 + inner.depth }
  | none => failure

/-! ## Repetition -/

/-- A decimal number below 2^32 with blanks around it. -/
def decimal? : Reading (Option Nat) := do
  modify fun s => { s with rest := s.rest.dropWhile isBlank }
  let digits ← takeWhile Char.isDigit
  modify fun s => { s with rest := s.rest.dropWhile isBlank }
  skip
  if digits.isEmpty then return none
  let n := digits.foldl (fun n c => 10 * n + (c.toNat - '0'.toNat)) 0
  if n < Nat.pow 2 32 then return some n else failure

/-- The bounds of a repetition between braces. -/
def bounds : Reading (Nat × Option Nat) := do
  let _ ← takeAndSkip
  let some least ← decimal? | failure
  let most ←
    if (← peek?) = some ',' then do
      let _ ← takeAndSkip
      if (← peek?) = some '}' then pure none
      else do
        let some most ← decimal? | failure
        pure (some most)
    else pure (some least)
  expect '}'
  if most.any (· < least) then failure
  return (least, most)

/-- The bounds that the next character gives to the piece before it. -/
def repetition : Reading (Nat × Option Nat) := do
  match ← peek? with
  | some '{' =>
    let bounds ← bounds
    skip
    return bounds
  | _ =>
    match ← take with
    | '?' => return (0, some 1)
    | '*' => return (0, none)
    | '+' => return (1, none)
    | _ => failure

/-- The repetition of a piece by what comes next; a question mark behind it makes it prefer fewer rounds. -/
def repeatPiece (piece : Piece) : Reading Piece := do
  if !piece.repeatable then failure
  let (least, most) ← repetition
  let lazy ← takeText "?"
  let greedy := lazy == (← get).flags.swapGreed
  return { expr := piece.expr.repeated least most greedy, depth := 1 + piece.depth }

/-! ## Groups -/

/-- What the start of a group says: flags for what follows, or a group with its number, if it is kept, and the
flags that hold in it. -/
inductive GroupStart
  | flags (flags : Flags)
  | group (index : Option Nat) (flags : Flags)

/-- Flags up to a colon or a closing parenthesis, which is given back. Those behind a hyphen are turned off, and
each occurs once; `seen` are the signs passed, last first. -/
def takeFlags (flags : Flags) (seen : List Char) : List Char → Option (Flags × List Char × Char × List Char)
  | [] => none
  | c :: rest =>
    if c = ':' ∨ c = ')' then
      if seen.head? = some '-' then none else some (flags, seen, c, rest)
    else if seen.contains c then none
    else if c = '-' then takeFlags flags (c :: seen) rest
    else match flags.set? c (!seen.contains '-') with
      | none => none
      | some flags => takeFlags flags (c :: seen) rest

/-- Whether a character may stand in the name of a group, `first` telling its place. -/
def isNameChar (first : Bool) (c : Char) : Bool :=
  if first then c = '_' || isAlphabetic c
  else c = '_' || c = '.' || c = '[' || c = ']' || isAlphanumeric c

/-- The name of a group up to the closing angle bracket. -/
def groupName : Reading String := do
  let s ← get
  let (name, rest) := s.rest.span (· ≠ '>')
  match name with
  | [] => failure
  | c :: more =>
    if !isNameChar true c || !more.all (isNameChar false) || rest.isEmpty then failure
    set { s with rest := rest.drop 1 }
    return String.ofList name

/-- Numbers a further group. No two groups have one name. -/
def openGroup (name : Option String) : Reading Nat := do
  let s ← get
  if name.isSome && s.groups.contains name then failure
  set { s with groups := name :: s.groups }
  return s.groups.length + 1

/-- What follows an opening parenthesis. -/
def groupStart : Reading GroupStart := do
  skip
  let s ← get
  if ["?=", "?!", "?<=", "?<!"].any (·.toList.isPrefixOf s.rest) then failure
  let named ← if ← takeText "?P<" then pure true else takeText "?<"
  if named then
    let name ← groupName
    return .group (some (← openGroup (some name))) s.flags
  else if ← takeText "?" then
    match takeFlags s.flags [] (← get).rest with
    | none => failure
    | some (flags, seen, close, rest) =>
      modify fun s => { s with rest }
      if close = ':' then return .group none flags
      else if seen.isEmpty then failure
      else return .flags flags
  else return .group (some (← openGroup none)) s.flags

/-! ## Expressions -/

/-- The pieces one after another; `items` come last first. -/
def sequencePiece (items : List Piece) : Piece :=
  match items with
  | [] => { expr := .empty }
  | [item] => item
  | _ =>
    { expr := .sequenceOf ((items.filter (·.repeatable)).reverse.map (·.expr))
      depth := 1 + items.foldl (fun d item => max d item.depth) 0 }

/-- The pieces as alternatives; `branches` come last first. -/
def eitherPiece (branches : List Piece) : Piece :=
  match branches with
  | [branch] => branch
  | _ =>
    { expr := .eitherOf (branches.reverse.map (·.expr))
      depth := 1 + branches.foldl (fun d branch => max d branch.depth) 0 }

/-- Reads alternatives up to a closing parenthesis or the end of the text. `branches` are those that are complete
and `items` the pieces of the current one, both last first. -/
def alternatives : (fuel : Nat) → (branches items : List Piece) → Reading Piece
  | 0, _, _ => failure
  | fuel + 1, branches, items => do
    skip
    match ← peek? with
    | none | some ')' => return eitherPiece (sequencePiece items :: branches)
    | some '|' =>
      let _ ← take
      alternatives fuel (sequencePiece items :: branches) []
    | some '(' =>
      let _ ← take
      let outer := (← get).flags
      match ← groupStart with
      | .flags flags =>
        modify fun s => { s with flags }
        alternatives fuel branches ({ expr := .empty, repeatable := false } :: items)
      | .group index flags =>
        modify fun s => { s with flags }
        let inner ← alternatives fuel [] []
        expect ')'
        modify fun s => { s with flags := outer }
        let expr := match index with
          | some i => .group i inner.expr
          | none => inner.expr
        alternatives fuel branches ({ expr, depth := 1 + inner.depth } :: items)
    | some '[' =>
      let piece ← bracketPiece
      alternatives fuel branches (piece :: items)
    | some '?' | some '*' | some '+' | some '{' =>
      match items with
      | [] => failure
      | item :: before =>
        let piece ← repeatPiece item
        alternatives fuel branches (piece :: before)
    | some _ =>
      let c ← take
      let piece ← plainPiece c
      alternatives fuel branches (piece :: items)

/-- How deep the syntax of an expression may be nested. -/
def depthLimit : Nat := 250

/-- An expression with the names of its groups, first to last. -/
structure Pattern where
  expr : Expr
  groups : List (Option String)

/-- The expression that a text writes, if it writes one. -/
def Pattern.ofText? (text : String) : Option Pattern := do
  let cs := text.toList
  let (piece, s) ← (alternatives (cs.length + 1) [] []).run { rest := cs }
  if s.rest.isEmpty && piece.depth ≤ depthLimit then
    return { expr := piece.expr, groups := s.groups.reverse }
  else none

end EventRules.Regex
