import EventRules.Regex.Basic

/-!
# Programs of regular expressions

A regular expression as a program of small instructions that a search can follow in step with a text. Every
instruction names the one to go on with, so a program is entered anywhere and read in no particular order.
-/

namespace EventRules.Regex

open Text

/-- An instruction: pass a character of a set, check a condition, note the place in a slot, go two ways with the
first preferred, or accept. -/
inductive Instr
  | pass (set : CharSet) (next : Nat)
  | check (look : Look) (next : Nat)
  | note (slot : Nat) (next : Nat)
  | fork (first second : Nat)
  | accept
  deriving Inhabited

/-- Instructions by number, and the number of the first one. -/
structure Program where
  code : Array Instr
  start : Nat

/-- A step of building a program. -/
abbrev Building := StateM (Array Instr)

/-- Adds an instruction and gives its number. -/
def emit (i : Instr) : Building Nat := do
  let n := (← get).size
  modify (·.push i)
  return n

/-- A fork between two ways on, the first preferred if `greedy` and the second otherwise. -/
def forkOf (greedy : Bool) (round next : Nat) : Instr :=
  if greedy then .fork round next else .fork next round

/-- A fork whose rounds come back to it: `round` builds the instructions of a round that goes on with the fork. The
number of the fork and that of the round are given back. -/
def loop (greedy : Bool) (round : Nat → Building Nat) (next : Nat) : Building (Nat × Nat) := do
  let fork ← emit .accept
  let start ← round fork
  modify (·.set! fork (forkOf greedy start next))
  return (fork, start)

/-- A number of rounds one after another. -/
def rounds (round : Nat → Building Nat) : (count next : Nat) → Building Nat
  | 0, next => return next
  | count + 1, next => do rounds round count (← round next)

/-- Up to a number of rounds, each with a way past all that are left. -/
def optionalRounds (greedy : Bool) (round : Nat → Building Nat) (next : Nat) : (count start : Nat) → Building Nat
  | 0, start => return start
  | count + 1, start => do
    let body ← round start
    optionalRounds greedy round next count (← emit (forkOf greedy body next))

namespace Expr

/-- Builds the instructions of an expression that goes on with `next`, and gives the number of the first. Rounds
that may be empty are entered through a fork of their own, so that an empty round is never preferred to leaving. -/
def build : Expr → (next : Nat) → Building Nat
  | empty, next => return next
  | chars set, next => emit (.pass set next)
  | look l, next => emit (.check l next)
  | group i e, next => do
    let close ← emit (.note (2 * i + 1) next)
    let body ← e.build close
    emit (.note (2 * i) body)
  | sequence a b, next => do a.build (← b.build next)
  | either a b, next => do
    let first ← a.build next
    let second ← b.build next
    emit (.fork first second)
  | times e least (some most) greedy, next => do
    rounds e.build least (← optionalRounds greedy e.build next (most - least) next)
  | times e 0 none greedy, next => do
    let (fork, start) ← loop greedy e.build next
    if e.mayBeEmpty then emit (forkOf greedy start next) else return fork
  | times e (least + 1) none greedy, next => do
    let (_, start) ← loop greedy e.build next
    rounds e.build least start

end Expr

/-- The program of an expression. The slots 0 and 1 are for the ends of the whole match. -/
def Program.ofExpr (e : Expr) : Program :=
  let (start, code) := (do
    let accept ← emit .accept
    (Expr.group 0 e).build accept : Building Nat).run #[]
  { code, start }

end EventRules.Regex
