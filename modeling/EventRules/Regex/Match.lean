import EventRules.Regex.Program

/-!
# Matching

Follows all ways through a program at once, in order of preference, while the text is read once from left to right.
A way that comes to an instruction where a preferred one has already been at the same place is given up, so each
instruction is entered at most once per place and the work grows with the product of program and text.
-/

namespace EventRules.Regex

/-- The places noted in slots, the latest first. -/
abbrev Notes := List (Nat × Nat)

/-- A way through the program: the next instruction and what has been noted. -/
structure Way where
  instr : Nat
  notes : Notes

/-- A place in a text: how many characters come before it, and its neighbours. -/
structure Place where
  index : Nat
  before : Option Char
  after : Option Char

/-- What exploring has reached: a bit for each instruction that was entered, and the ways that wait for a character
or accept, the least preferred first. -/
structure Frontier where
  entered : Nat := 0
  waiting : List Way := []

/-- Follows ways up to instructions that wait for a character or accept. The stack holds the ways still to follow,
the most preferred first. -/
def Program.explore (p : Program) (place : Place) : (fuel : Nat) → (stack : List Way) → Frontier → Frontier
  | 0, _, f => f
  | _ + 1, [], f => f
  | fuel + 1, way :: stack, f =>
    if f.entered.testBit way.instr then p.explore place fuel stack f
    else
      let f := { f with entered := f.entered ||| 1 <<< way.instr }
      match p.code[way.instr]? with
      | none => p.explore place fuel stack f
      | some (.pass ..) | some .accept => p.explore place fuel stack { f with waiting := way :: f.waiting }
      | some (.check l next) =>
        if l.holds place.before place.after then p.explore place fuel ({ way with instr := next } :: stack) f
        else p.explore place fuel stack f
      | some (.note slot next) =>
        p.explore place fuel ({ instr := next, notes := (slot, place.index) :: way.notes } :: stack) f
      | some (.fork first second) =>
        p.explore place fuel ({ way with instr := first } :: { way with instr := second } :: stack) f

/-- The ways that wait or accept at a place, the most preferred first. -/
def Program.frontier (p : Program) (place : Place) (ways : List Way) : List Way :=
  let fuel := 2 * p.code.size + 2
  (ways.foldl (fun f way => p.explore place fuel [way] f) {}).waiting.reverse

/-- Whether a way accepts. -/
def Program.accepts (p : Program) (way : Way) : Bool :=
  match p.code[way.instr]? with
  | some .accept => true
  | _ => false

/-- Where a way goes on when a character is passed. -/
def Program.pass? (p : Program) (c : Char) (way : Way) : Option Way :=
  match p.code[way.instr]? with
  | some (.pass set next) => if set.contains c then some { way with instr := next } else none
  | _ => none

/-- What is known at a place: the notes of the way that accepted, the most preferred so far, and the ways preferred
to it that wait for a character. -/
structure Progress where
  found : Option Notes
  waiting : List Way

/-- Looks at the ways that reach a place. One that accepts ends all that are less preferred, and once one has
accepted no further way starts. -/
def Program.arrive (p : Program) (found : Option Notes) (ways : List Way) (place : Place) : Progress :=
  let ways := if found.isSome then ways else ways ++ [{ instr := p.start, notes := [] }]
  let reached := p.frontier place ways
  { found := ((reached.find? p.accepts).map (·.notes)).or found
    waiting := reached.takeWhile (!p.accepts ·) }

/-- Reads on through the text, of which `index` characters are passed and `before` is the last of them. -/
def Program.advance (p : Program) (before : Option Char) (index : Nat) (found : Option Notes) (ways : List Way) :
    (text : List Char) → Option Notes
  | [] => (p.arrive found ways { index, before, after := none }).found
  | c :: rest =>
    let progress := p.arrive found ways { index, before, after := some c }
    let ways := progress.waiting.filterMap (p.pass? c)
    if ways.isEmpty && progress.found.isSome then progress.found
    else p.advance (some c) (index + 1) progress.found ways rest

/-- A match: the place of every noted slot. -/
structure Match where
  notes : Notes

namespace Match

/-- The ends of a group, if it took part in the match. -/
def span? (m : Match) (group : Nat) : Option (Nat × Nat) := do
  return (← m.notes.lookup (2 * group), ← m.notes.lookup (2 * group + 1))

/-- Where the match starts. -/
def start (m : Match) : Nat :=
  (m.notes.lookup 0).getD 0

/-- Where the match ends. -/
def stop (m : Match) : Nat :=
  (m.notes.lookup 1).getD 0

end Match

/-- The first match in `text`, the part of a text that follows `index` characters of which `before` is the last. -/
def Program.search (p : Program) (before : Option Char) (index : Nat) (text : List Char) : Option Match :=
  (p.advance before index none [] text).map Match.mk

/-- All matches from a place on, left to right and without overlap. An empty match where the last one ended does not
count; the search goes on behind the next character. -/
def Program.findAll (p : Program) (last : Option Nat) : (fuel : Nat) → (before : Option Char) → (index : Nat) →
    (text : List Char) → List Match
  | 0, _, _, _ => []
  | fuel + 1, before, index, text =>
    match p.search before index text with
    | none => []
    | some m =>
      if m.start = m.stop && some m.stop == last then
        match text with
        | [] => []
        | c :: rest => p.findAll none fuel (some c) (index + 1) rest
      else
        let passed := m.stop - index
        let before := if passed = 0 then before else text[passed - 1]?
        m :: p.findAll (some m.stop) fuel before m.stop (text.drop passed)

end EventRules.Regex
